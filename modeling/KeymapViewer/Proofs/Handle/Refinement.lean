import KeymapViewer.Proofs.Handle.History

/-!
After every run of operations a table holds what its history tells, as long
as the numbers of entries and of references fit into their words.
-/

namespace KeymapViewer.HandleTable

open Handle History

/-- A table that holds what its history tells. -/
structure Refines (table : HandleTable) (history : History) : Prop where
  /-- An entry's handle is live as long as more references have been taken to
  it than given back, the one it was handed out with included. -/
  live : ∀ handle : Handle, handle.IsEntry →
    ((∃ value, table.resolve handle = .ok value) ↔
      ∃ value later, since? handle history = some (value, later) ∧
        returned handle later < taken handle later + 1)
  /-- A live handle names the value that it was handed out for. -/
  held : ∀ (handle : Handle) value later, handle.IsEntry →
    since? handle history = some (value, later) →
    returned handle later < taken handle later + 1 →
    table.resolve handle = .ok value ∧
      table.refCount? handle =
        some (taken handle later + 1 - returned handle later)
  /-- A value without a fixed handle gets one of an entry that was not
  live. -/
  fresh : ∀ value, value.singleton? = none →
    (table.add value).1.IsEntry ∧
      table.resolve (table.add value).1 =
        .error (.stale (table.add value).1)
  /-- An odd handle names a place on the stack. -/
  places : ∀ handle : Handle, handle.isStack →
    table.resolve handle =
      match (borrowed history)[handle.index]? with
      | some value => .ok value
      | none => .error (.stale handle)
  /-- A clone of a borrowed value is a reference to a copy that stays when the
  stack is cleared. -/
  copied : ∀ (handle : Handle) value, handle.isStack →
    (borrowed history)[handle.index]? = some value → value.singleton? = none →
    ∃ copy after, table.clone handle = .ok (copy, after) ∧
      (copy, after) = table.add value ∧
      after.clearStack.resolve copy = .ok value ∧
      after.refCount? copy = some 1
  /-- The fixed handles name the same values at all times. -/
  fixed : table.resolve .undefined = .ok .undefined ∧
    table.resolve .null = .ok .null ∧
    table.resolve .true = .ok (.bool Bool.true) ∧
    table.resolve .false = .ok (.bool Bool.false)
  /-- No index of an entry falls below zero. -/
  index : ∀ handle : Handle, handle.isStack = Bool.false →
    handle.isSingleton = Bool.false →
    handle.entry + reserved = handle.index
  /-- What is refused is a breach of the contract that changes nothing. -/
  refused : ∀ operation misuse,
    (table.perform operation).1 = .refused misuse →
    misuse.fault.isContract ∧ (table.perform operation).2 = table
  /-- A handle that is not live is a breach of the contract as well. -/
  unresolved : ∀ handle misuse, table.resolve handle = .error misuse →
    misuse.fault.isContract

/-! ## The invariant of a run -/

/-- The chain of vacant slots is whole, and stack and entries are those that
the history tells. -/
structure Matches (table : HandleTable) (history : History) : Prop where
  linked : ∃ free, table.Linked free
  stack : table.stack.toList = borrowed history
  entries : ∀ entry < entryLimit,
    table.occupant? entry = balance? (.ofEntry entry) history

namespace Matches

variable {table : HandleTable} {history : History}

theorem empty : Matches .empty [] :=
  ⟨⟨[], .empty⟩, rfl, fun _ _ => rfl⟩

/-- The references to the handle of an entry, by the handle. -/
theorem occupant?_entry (matched : Matches table history) {handle : Handle}
    (isEntry : handle.IsEntry) :
    table.occupant? handle.entry = balance? handle history := by
  rw [matched.entries _ handle.entry_lt_entryLimit, isEntry.ofEntry_entry]

/-- An event of which the entries take no notice. -/
theorem of_entries_same (matched : Matches table history)
    {after : HandleTable} {event : Event}
    (arena : after.arena = table.arena)
    (freeHead : after.freeHead = table.freeHead)
    (stack : after.stack.toList = History.borrowed (event :: history))
    (other : ∀ handle : Handle, handle.IsEntry →
      balance? handle (event :: history) = balance? handle history) :
    Matches after (event :: history) := by
  obtain ⟨free, chain, distinct, complete⟩ := matched.linked
  refine ⟨⟨free, ?_, distinct, ?_⟩, stack, fun entry small => ?_⟩
  · rw [arena, freeHead]
    exact chain
  · rw [arena]
    exact complete
  · rw [other _ (isEntry_ofEntry small), ← matched.entries entry small,
      occupant?_eq_bind, occupant?_eq_bind, arena]

/-- What is refused is not seen by a table or by its history. -/
theorem refused (matched : Matches table history) (operation : Operation)
    (misuse : Misuse)
    (stack : History.borrowed (⟨operation, .refused misuse⟩ :: history) =
      History.borrowed history) :
    Matches table (⟨operation, .refused misuse⟩ :: history) :=
  matched.of_entries_same rfl rfl (matched.stack.trans stack.symm)
    fun _ _ => balance?_of_refused operation misuse

/-- Adding a value, by a call or as the clone of a borrowed one. -/
theorem add (matched : Matches table history) {value : HostValue}
    (operation : Operation)
    (stack : ∀ answer,
      History.borrowed (⟨operation, answer⟩ :: history) = History.borrowed history)
    (stores : ∀ given handle,
      stored? history handle ⟨operation, .handle given⟩ =
        if given = handle then some value else none)
    (fromElsewhere : ∀ handle : Handle, handle.IsEntry →
      operation ≠ .clone handle)
    (within : (table.add value).2.WithinLimits) :
    Matches (table.add value).2
      (⟨operation, .handle (table.add value).1⟩ :: history) := by
  obtain ⟨free, linked⟩ := matched.linked
  -- A value with a fixed handle is not stored, and its handle is not that of
  -- an entry.
  rcases fixed : value.singleton? with _ | given
  · obtain ⟨entry, after, added, -, inside, occupants, sameStack, linkedAfter⟩ :=
      linked.add fixed
    rw [added] at within ⊢
    have small : entry < entryLimit := inside.trans within.1
    refine ⟨⟨_, linkedAfter⟩, ?_, fun other smallOther => ?_⟩
    · rw [sameStack, matched.stack, stack]
    · rw [occupants]
      split
      · rename_i same
        subst same
        rw [balance?_of_stored (by rw [stores, if_pos rfl])]
      · rename_i differs
        have differ : Handle.ofEntry entry ≠ .ofEntry other :=
          fun same => differs ((ofEntry_inj small smallOther).mp same).symm
        rw [balance?_of_other (by rw [stores, if_neg differ])
          (fun same => fromElsewhere _ (isEntry_ofEntry smallOther)
            (congrArg Event.operation same)) (by simp),
          matched.entries other smallOther]
  · have added : table.add value = (given, table) := by
      rw [HandleTable.add, fixed]
    rw [added]
    refine matched.of_entries_same rfl rfl ?_ fun handle isEntry => ?_
    · rw [stack, matched.stack]
    · have differ : given ≠ handle := fun same =>
        not_isEntry_of_singleton? fixed (same ▸ isEntry)
      exact balance?_of_other (by rw [stores, if_neg differ])
        (fun same => fromElsewhere _ isEntry (congrArg Event.operation same))
        (by simp)

/-- A change of the references to one handle, seen by its entry alone. -/
theorem setSlot (matched : Matches table history) {handle : Handle}
    (isEntry : handle.IsEntry) {after : HandleTable} {event : Event}
    {slot : Slot} {held : HostValue × Nat}
    (found : table.occupant? handle.entry = some held)
    (arena : after.arena = (table.setSlot handle.entry slot).arena)
    (linked : ∃ free, after.Linked free)
    (stack : after.stack.toList = History.borrowed (event :: history))
    (same : balance? handle (event :: history) = slot.occupant?)
    (other : ∀ different : Handle, different ≠ handle →
      balance? different (event :: history) = balance? different history) :
    Matches after (event :: history) := by
  refine ⟨linked, stack, fun entry small => ?_⟩
  have occupants : after.occupant? entry =
      (table.setSlot handle.entry slot).occupant? entry := by
    rw [occupant?_eq_bind, occupant?_eq_bind, arena]
  rw [occupants, occupant?_setSlot (lt_size_of_occupant? found)]
  split
  · rename_i isSame
    rw [isSame, isEntry.ofEntry_entry, same]
  · rename_i differs
    have different : Handle.ofEntry entry ≠ handle := fun isSame =>
      differs (by rw [← isSame, entry_ofEntry small])
    rw [other _ different, matched.entries entry small]

theorem clone (matched : Matches table history) (handle : Handle)
    (within : (table.perform (.clone handle)).2.WithinLimits) :
    Matches (table.perform (.clone handle)).2
      (⟨.clone handle, (table.perform (.clone handle)).1⟩ :: history) := by
  simp only [perform, HandleTable.clone] at within ⊢
  cases singleton : handle.isSingleton with
  | true =>
      have even : handle.isStack = Bool.false := by
        simp only [isSingleton, Bool.and_eq_true, Bool.not_eq_true'] at singleton
        exact singleton.1
      refine matched.of_entries_same rfl rfl matched.stack
        fun other isEntry => ?_
      have different : handle ≠ other := fun same => by
        rw [← same, IsEntry, singleton] at isEntry
        cases isEntry.2
      exact balance?_of_other (by simp [stored?, even]) (by simp [different])
        (by simp)
  | false =>
      cases odd : handle.isStack with
      | true =>
          cases found : table.stack[handle.index]? with
          | none =>
              exact matched.refused _ _ rfl
          | some value =>
              have place : (History.borrowed history)[handle.index]? =
                  some value := by
                rw [← matched.stack, Array.getElem?_toList, found]
              refine matched.add (.clone handle) (fun _ => rfl)
                (fun given other => ?_) (fun other isEntry same => ?_) ?_
              · simp [stored?, odd, place]
              · rw [Operation.clone.injEq] at same
                rw [same, isEntry.1] at odd
                cases odd
              · simpa [singleton, odd, found] using within
      | false =>
          have isEntry : handle.IsEntry := ⟨odd, singleton⟩
          cases found : table.occupant? handle.entry with
          | none =>
              exact matched.refused _ _ rfl
          | some held =>
              obtain ⟨value, count⟩ := held
              obtain ⟨free, linked⟩ := matched.linked
              refine matched.setSlot isEntry found rfl
                ⟨free, linked.setSlot_occupied found _ _⟩ matched.stack ?_
                fun other different => ?_
              · rw [matched.occupant?_entry isEntry] at found
                exact balance?_of_taken odd found
              · exact balance?_of_other (by simp [stored?, odd])
                  (by simp [different.symm]) (by simp)

theorem release (matched : Matches table history) (handle : Handle) :
    Matches (table.perform (.release handle)).2
      (⟨.release handle, (table.perform (.release handle)).1⟩ :: history) := by
  have other (different : Handle) (differ : different ≠ handle) :
      balance? different (⟨.release handle, .done⟩ :: history) =
        balance? different history :=
    balance?_of_other rfl (by simp) (by simp [differ.symm])
  simp only [perform, HandleTable.release]
  cases singleton : handle.isSingleton with
  | true =>
      refine matched.of_entries_same rfl rfl matched.stack
        fun entry isEntry => other entry fun same => ?_
      rw [same, IsEntry, singleton] at isEntry
      cases isEntry.2
  | false =>
      cases odd : handle.isStack with
      | true =>
          exact matched.refused _ _ rfl
      | false =>
          have isEntry : handle.IsEntry := ⟨odd, singleton⟩
          cases found : table.occupant? handle.entry with
          | none =>
              exact matched.refused _ _ rfl
          | some held =>
              obtain ⟨value, count⟩ := held
              obtain ⟨free, linked⟩ := matched.linked
              have balance := balance?_of_returned
                ((matched.occupant?_entry isEntry).symm.trans found)
              by_cases more : 1 < count
              · rw [if_pos more] at balance
                simp only [more, if_true]
                exact matched.setSlot isEntry found rfl
                  ⟨free, linked.setSlot_occupied found _ _⟩ matched.stack
                  balance other
              · rw [if_neg more] at balance
                simp only [more, if_false]
                exact matched.setSlot isEntry found rfl
                  ⟨_, linked.vacate found⟩ matched.stack balance other

/-- One operation keeps a table and its history together. -/
theorem perform (matched : Matches table history) (operation : Operation)
    (within : (table.perform operation).2.WithinLimits) :
    Matches (table.perform operation).2
      (⟨operation, (table.perform operation).1⟩ :: history) := by
  cases operation with
  | add value =>
      exact matched.add (.add value) (fun _ => rfl) (fun _ _ => rfl) (by simp)
        within
  | clone handle =>
      exact matched.clone handle within
  | release handle =>
      exact matched.release handle
  | push value =>
      refine matched.of_entries_same rfl rfl ?_ fun handle _ =>
        balance?_of_other rfl (by simp) (by simp)
      simp [HandleTable.perform, push, History.borrowed, matched.stack]
  | pop =>
      refine matched.of_entries_same rfl rfl ?_ fun handle _ =>
        balance?_of_other rfl (by simp) (by simp)
      simp [HandleTable.perform, pop, History.borrowed, matched.stack]
  | clear =>
      exact matched.of_entries_same rfl rfl rfl fun handle _ =>
        balance?_of_other rfl (by simp) (by simp)

end Matches

/-! ## Runs -/

theorem run_append_singleton (operations : List Operation)
    (operation : Operation) :
    run (operations ++ [operation]) = (run operations).step operation := by
  rw [run, List.foldl_append]
  rfl

theorem StaysWithin.of_append {operations : List Operation}
    {operation : Operation}
    (within : StaysWithin (operations ++ [operation])) :
    StaysWithin operations := fun earlier member =>
  within earlier ((List.mem_inits ..).mpr
    (((List.mem_inits ..).mp member).trans (List.prefix_append ..)))

theorem StaysWithin.last {operations : List Operation}
    (within : StaysWithin operations) : (run operations).table.WithinLimits :=
  within operations ((List.mem_inits ..).mpr List.prefix_rfl)

theorem matches_run {operations : List Operation}
    (within : StaysWithin operations) :
    Matches (run operations).table (run operations).history := by
  -- The history has its last event first, so the run is taken apart at its
  -- end.
  induction operations using List.reverseRecOn with
  | nil =>
      exact .empty
  | append_singleton operations operation inductionHypothesis =>
      have last := within.last
      rw [run_append_singleton] at last ⊢
      exact (inductionHypothesis within.of_append).perform operation last

/-! ## What a table holds -/

theorem resolve_of_isEntry {table : HandleTable} {handle : Handle}
    (isEntry : handle.IsEntry) :
    table.resolve handle =
      match table.occupant? handle.entry with
      | some (value, _) => .ok value
      | none => .error (.stale handle) := by
  unfold resolve
  rw [isEntry.1, isEntry.2]
  rfl

theorem refCount?_of_isEntry {table : HandleTable} {handle : Handle}
    (isEntry : handle.IsEntry) :
    table.refCount? handle = (table.occupant? handle.entry).map (·.2) := by
  unfold refCount?
  rw [isEntry.1, isEntry.2]
  rfl

theorem Misuse.fault_isContract (misuse : Misuse) :
    misuse.fault.isContract := by
  cases misuse with
  | stale | releasedStack =>
      rfl

theorem perform_of_refused {table : HandleTable} {operation : Operation}
    {misuse : Misuse}
    (refused : (table.perform operation).1 = .refused misuse) :
    (table.perform operation).2 = table := by
  cases operation with
  | add | push | pop | clear =>
      cases refused
  | clone handle =>
      cases outcome : table.clone handle with
      | ok _ =>
          simp [perform, outcome] at refused
      | error _ =>
          simp [perform, outcome]
  | release handle =>
      cases outcome : table.release handle with
      | ok _ =>
          simp [perform, outcome] at refused
      | error _ =>
          simp [perform, outcome]

namespace Matches

variable {table : HandleTable} {history : History}

theorem resolve_eq_ok_iff (matched : Matches table history) {handle : Handle}
    (isEntry : handle.IsEntry) (value : HostValue) :
    table.resolve handle = .ok value ↔
      ∃ count, balance? handle history = some (value, count) := by
  rw [resolve_of_isEntry isEntry, matched.occupant?_entry isEntry]
  rcases balance? handle history with _ | ⟨held, count⟩
  · simp
  · simp

/-- The entry that a value without a fixed handle goes to. -/
theorem add_eq (matched : Matches table history)
    (small : table.arena.size < entryLimit) {value : HostValue}
    (plain : value.singleton? = none) :
    ∃ entry after, table.add value = (.ofEntry entry, after) ∧
      entry < entryLimit ∧ table.occupant? entry = none ∧
      after.occupant? entry = some (value, 1) := by
  obtain ⟨free, linked⟩ := matched.linked
  obtain ⟨entry, after, added, vacant, inside, occupants, -, -⟩ :=
    linked.add plain
  have size := size_add_le table value
  rw [added] at size
  simp only at size
  exact ⟨entry, after, added, by omega, vacant, by rw [occupants, if_pos rfl]⟩

theorem refines (matched : Matches table history)
    (small : table.arena.size < entryLimit) : Refines table history where
  live handle isEntry := by
    constructor
    · rintro ⟨value, resolved⟩
      obtain ⟨count, held⟩ := (matched.resolve_eq_ok_iff isEntry value).mp resolved
      obtain ⟨later, found, outstanding, -⟩ := balance?_eq_some_iff.mp held
      exact ⟨value, later, found, outstanding⟩
    · rintro ⟨value, later, found, outstanding⟩
      exact ⟨value, (matched.resolve_eq_ok_iff isEntry value).mpr
        ⟨_, balance?_eq_some_iff.mpr ⟨later, found, outstanding, rfl⟩⟩⟩
  held handle value later isEntry found outstanding := by
    have held := balance?_eq_some_iff.mpr ⟨later, found, outstanding, rfl⟩
    refine ⟨(matched.resolve_eq_ok_iff isEntry value).mpr ⟨_, held⟩, ?_⟩
    rw [refCount?_of_isEntry isEntry, matched.occupant?_entry isEntry, held]
    rfl
  fresh value plain := by
    obtain ⟨entry, after, added, smallEntry, vacant, -⟩ :=
      matched.add_eq small plain
    rw [added]
    refine ⟨isEntry_ofEntry smallEntry, ?_⟩
    rw [resolve_of_isEntry (isEntry_ofEntry smallEntry),
      entry_ofEntry smallEntry, vacant]
  places handle isStack := by
    have place : (borrowed history)[handle.index]? =
        table.stack[handle.index]? := by
      rw [← matched.stack, Array.getElem?_toList]
    cases found : table.stack[handle.index]? with
    | none | some _ =>
        simp only [resolve, isStack, if_true, place, found]
  copied handle value isStack place plain := by
    obtain ⟨entry, after, added, smallEntry, -, stored⟩ :=
      matched.add_eq small plain
    rw [← matched.stack, Array.getElem?_toList] at place
    have isEntry := isEntry_ofEntry smallEntry
    refine ⟨_, _, ?_, added.symm, ?_, ?_⟩
    · simp [HandleTable.clone, isSingleton, isStack, place, added]
    · rw [resolve_of_isEntry isEntry, entry_ofEntry smallEntry]
      change (match after.occupant? entry with
        | some (value, _) => Except.ok value
        | none => _) = _
      rw [stored]
    · rw [refCount?_of_isEntry isEntry, entry_ofEntry smallEntry, stored]
      rfl
  fixed := ⟨rfl, rfl, rfl, rfl⟩
  index handle even notFixed := IsEntry.entry_add_reserved ⟨even, notFixed⟩
  refused operation misuse refused :=
    ⟨misuse.fault_isContract, perform_of_refused refused⟩
  unresolved handle misuse _ := misuse.fault_isContract

end Matches

/-- A handle table is a store with reference counts: after every run it holds
what its history tells. -/
theorem run_refines (operations : List Operation)
    (within : StaysWithin operations) :
    Refines (run operations).table (run operations).history :=
  (matches_run within).refines within.last.1

theorem run_refines_reuse :
    let operations : List Operation :=
      [.push (.string "a"), .clone ⟨1⟩, .clone ⟨8⟩, .release ⟨8⟩, .pop,
        .release ⟨8⟩, .release ⟨8⟩, .add (.element "map"), .clone ⟨10⟩]
    StaysWithin operations ∧
      Refines (run operations).table (run operations).history :=
  ⟨by decide, run_refines _ (by decide)⟩

/-- Clones that are refused do not count: a handle that is not live stays so
whatever is asked of it. -/
theorem not_live_iff_asked :
    ¬ ∀ operations, StaysWithin operations → ∀ handle : Handle,
      handle.IsEntry →
      ((∃ value, (run operations).table.resolve handle = .ok value) ↔
        ∃ value later,
          since? handle (run operations).history = some (value, later) ∧
          returned handle later <
            later.countP (·.operation = .clone handle) + 1) := by
  intro asked
  have stale :
      (run [.add (.string "a"), .release ⟨8⟩, .clone ⟨8⟩]).table.resolve
        ⟨8⟩ = .error (.stale ⟨8⟩) := by
    decide
  obtain ⟨value, resolved⟩ :=
    (asked [.add (.string "a"), .release ⟨8⟩, .clone ⟨8⟩] (by decide) ⟨8⟩
      (by decide)).mpr
      ⟨.string "a", [⟨.clone ⟨8⟩, .refused (.stale ⟨8⟩)⟩,
        ⟨.release ⟨8⟩, .done⟩], by decide, by decide⟩
  rw [stale] at resolved
  cases resolved

end KeymapViewer.HandleTable
