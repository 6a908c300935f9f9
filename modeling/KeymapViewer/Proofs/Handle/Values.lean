import KeymapViewer.Proofs.Handle.Refinement

/-!
The values that handles name. A value that is added is named by the handle it
gets, and all handles that named a value before name the same one after it.
-/

namespace KeymapViewer.HandleTable

open Handle

variable {table after : HandleTable} {free : List Nat} {handle copy : Handle}

/-! ## The chain after an operation -/

namespace Linked

theorem exists_add (linked : table.Linked free) (value : HostValue) :
    ∃ left, (table.add value).2.Linked left := by
  cases fixed : value.singleton? with
  | some handle =>
      refine ⟨free, ?_⟩
      rw [HandleTable.add, fixed]
      exact linked
  | none =>
      obtain ⟨entry, after, added, -, -, -, -, left⟩ := linked.add fixed
      rw [added]
      exact ⟨free.tail, left⟩

theorem of_clone (linked : table.Linked free)
    (cloned : table.clone handle = .ok (copy, after)) :
    ∃ left, after.Linked left := by
  unfold clone at cloned
  split at cloned
  · cases cloned
    exact ⟨free, linked⟩
  split at cloned
  · split at cloned
    · rename_i value there
      obtain rfl := congrArg Prod.snd (Except.ok.inj cloned)
      exact linked.exists_add value
    · cases cloned
  · split at cloned
    · rename_i value count found
      cases cloned
      exact ⟨free, linked.setSlot_occupied found value (count + 1)⟩
    · cases cloned

theorem of_release (linked : table.Linked free)
    (released : table.release handle = .ok after) :
    ∃ left, after.Linked left := by
  unfold release at released
  split at released
  · cases released
    exact ⟨free, linked⟩
  split at released
  · cases released
  split at released
  · cases released
  rename_i value count found
  split at released
  · cases released
    exact ⟨free, linked.setSlot_occupied found value (count - 1)⟩
  · cases released
    exact ⟨handle.entry :: free, linked.vacate found⟩

end Linked

/-! ## Values that are added -/

theorem resolve_singleton {value : HostValue}
    (fixed : value.singleton? = some handle) (table : HandleTable) :
    table.resolve handle = .ok value := by
  unfold HostValue.singleton? at fixed
  split at fixed
  all_goals
    cases fixed
  all_goals
    rfl

/-- The table has room for the value, so its handle does not wrap. -/
theorem resolve_add_self (linked : table.Linked free)
    (room : table.arena.size < entryLimit) (value : HostValue) :
    (table.add value).2.resolve (table.add value).1 = .ok value := by
  cases fixed : value.singleton? with
  | some handle =>
      rw [HandleTable.add, fixed]
      exact resolve_singleton fixed table
  | none =>
      obtain ⟨entry, after, added, -, inside, occupants, -, -⟩ :=
        linked.add fixed
      have size := size_add_le table value
      rw [added] at size ⊢
      have small : entry < entryLimit := by
        simp only at size
        omega
      rw [resolve_of_isEntry (isEntry_ofEntry small), entry_ofEntry small,
        occupants, if_pos rfl]

theorem resolve_add_of_ok (linked : table.Linked free) {found : HostValue}
    (resolved : table.resolve handle = .ok found) (value : HostValue) :
    (table.add value).2.resolve handle = .ok found := by
  cases fixed : value.singleton? with
  | some _ =>
      rw [HandleTable.add, fixed]
      exact resolved
  | none =>
      obtain ⟨entry, after, added, vacant, -, occupants, stack, -⟩ :=
        linked.add fixed
      rw [added]
      by_cases isEntry : handle.IsEntry
      · rw [resolve_of_isEntry isEntry] at resolved ⊢
        rw [occupants]
        by_cases same : handle.entry = entry
        · rw [same, vacant] at resolved
          cases resolved
        · rw [if_neg same]
          exact resolved
      · -- Handles of other kinds do not look into the entries.
        unfold resolve at resolved ⊢
        rw [stack]
        cases borrowed : handle.isStack with
        | true =>
            rw [borrowed] at resolved
            exact resolved
        | false =>
            have singleton : handle.isSingleton = Bool.true := by
              by_contra other
              exact isEntry ⟨borrowed, eq_false_of_ne_true other⟩
            rw [borrowed, singleton] at resolved
            rw [singleton]
            exact resolved

end KeymapViewer.HandleTable
