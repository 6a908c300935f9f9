import KeymapViewer.Handle
import KeymapViewer.Word
import Mathlib.Data.List.Nodup

/-!
The slots of a handle table. The vacant ones form a chain from the one that
became vacant last, and each operation changes the entry that it names and no
other.
-/

namespace KeymapViewer

/-! ## Handles of entries -/

namespace Handle

/-- The number of entries that handles can name. -/
def entryLimit : Nat := wordCount 31 - reserved

/-- The handle can only name an entry of a table. -/
def IsEntry (handle : Handle) : Prop :=
  handle.isStack = Bool.false ∧ handle.isSingleton = Bool.false

instance (handle : Handle) : Decidable handle.IsEntry :=
  inferInstanceAs (Decidable (_ ∧ _))

theorem entryLimit_eq : entryLimit = 2147483644 := by decide

theorem isStack_eq_false_iff (handle : Handle) :
    handle.isStack = Bool.false ↔ handle.raw.toNat % 2 = 0 := by
  rw [isStack, beq_eq_false_iff_ne, ne_eq, ← UInt32.toNat_inj,
    UInt32.toNat_mod]
  change ¬ handle.raw.toNat % 2 = 1 ↔ _
  omega

theorem isEntry_iff (handle : Handle) :
    handle.IsEntry ↔ handle.raw.toNat % 2 = 0 ∧ 8 ≤ handle.raw.toNat := by
  rw [IsEntry, ← isStack_eq_false_iff]
  refine and_congr_right fun even => ?_
  rw [isSingleton, even, index, reserved, Bool.not_false, Bool.true_and,
    decide_eq_false_iff_not]
  omega

/-- The index of an entry's handle is never below the fixed handles. -/
theorem IsEntry.entry_add_reserved {handle : Handle}
    (isEntry : handle.IsEntry) :
    handle.entry + reserved = handle.index := by
  rw [isEntry_iff] at isEntry
  rw [entry, index, reserved]
  omega

theorem toNat_ofEntry {slot : Nat} (small : slot < entryLimit) :
    (ofEntry slot).raw.toNat = (slot + 4) * 2 := by
  rw [entryLimit_eq] at small
  rw [ofEntry, Nat.toUInt32, UInt32.toNat_ofNat', reserved]
  exact Nat.mod_eq_of_lt (by omega)

theorem isEntry_ofEntry {slot : Nat} (small : slot < entryLimit) :
    (ofEntry slot).IsEntry := by
  rw [isEntry_iff, toNat_ofEntry small]
  omega

theorem entry_ofEntry {slot : Nat} (small : slot < entryLimit) :
    (ofEntry slot).entry = slot := by
  rw [entry, index, toNat_ofEntry small, reserved]
  omega

theorem entry_lt_entryLimit (handle : Handle) :
    handle.entry < entryLimit := by
  have small := handle.raw.toNat_lt
  rw [entry, index, reserved, entryLimit_eq]
  omega

theorem IsEntry.ofEntry_entry {handle : Handle} (isEntry : handle.IsEntry) :
    ofEntry handle.entry = handle := by
  have same := toNat_ofEntry handle.entry_lt_entryLimit
  have whole := isEntry.entry_add_reserved
  rw [isEntry_iff] at isEntry
  rw [index, reserved] at whole
  obtain ⟨raw⟩ := handle
  rw [Handle.mk.injEq, ← UInt32.toNat_inj, same]
  simp only at whole isEntry ⊢
  omega

theorem ofEntry_inj {first second : Nat} (smallFirst : first < entryLimit)
    (smallSecond : second < entryLimit) :
    ofEntry first = ofEntry second ↔ first = second := by
  refine ⟨fun same => ?_, congrArg ofEntry⟩
  rw [← entry_ofEntry smallFirst, same, entry_ofEntry smallSecond]

/-- The fixed handles of values name no entry. -/
theorem not_isEntry_of_singleton? {value : HostValue} {handle : Handle}
    (fixed : value.singleton? = some handle) : ¬ handle.IsEntry := by
  unfold HostValue.singleton? at fixed
  split at fixed
  all_goals
    cases fixed
  all_goals
    decide

end Handle

namespace HandleTable

open Handle

/-! ## What entries hold -/

def Slot.occupant? : Slot → Option (HostValue × Nat)
  | .occupied value count => some (value, count)
  | .vacant _ => none

theorem occupant?_eq_bind (table : HandleTable) (entry : Nat) :
    table.occupant? entry = table.arena[entry]?.bind Slot.occupant? := by
  unfold occupant?
  rcases table.arena[entry]? with _ | (⟨value, count⟩ | next)
  · rfl
  · rfl
  · rfl

theorem lt_size_of_occupant? {table : HandleTable} {entry : Nat}
    {held : HostValue × Nat} (found : table.occupant? entry = some held) :
    entry < table.arena.size := by
  by_contra outside
  rw [occupant?_eq_bind,
    Array.getElem?_eq_none (Nat.le_of_not_lt outside)] at found
  cases found

theorem getElem?_setSlot {table : HandleTable} {entry : Nat}
    (inside : entry < table.arena.size) (slot : Slot) (other : Nat) :
    (table.setSlot entry slot).arena[other]? =
      if other = entry then some slot else table.arena[other]? := by
  simp only [setSlot, Array.getElem?_setIfInBounds]
  by_cases same : entry = other
  · subst same
    simp [inside]
  · simp [same, Ne.symm same]

theorem occupant?_setSlot {table : HandleTable} {entry : Nat}
    (inside : entry < table.arena.size) (slot : Slot) (other : Nat) :
    (table.setSlot entry slot).occupant? other =
      if other = entry then slot.occupant? else table.occupant? other := by
  rw [occupant?_eq_bind, occupant?_eq_bind, getElem?_setSlot inside]
  split
  · rfl
  · rfl

theorem size_add_le (table : HandleTable) (value : HostValue) :
    (table.add value).2.arena.size ≤ table.arena.size + 1 := by
  unfold add
  cases value.singleton? with
  | some handle =>
      exact Nat.le_succ _
  | none =>
      cases table.freeHead with
      | none =>
          simp
      | some slot =>
          simp [setSlot]

/-! ## The chain of vacant slots -/

/-- The vacant slots from one to reuse on, each of which names the next. -/
inductive Chain (arena : Array Slot) : Option Nat → List Nat → Prop
  | nil : Chain arena none []
  | cons {slot : Nat} {next : Option Nat} {rest : List Nat}
      (vacant : arena[slot]? = some (.vacant next))
      (others : Chain arena next rest) :
      Chain arena (some slot) (slot :: rest)

/-- The chain goes through all vacant slots, and through each of them once. -/
structure Linked (table : HandleTable) (free : List Nat) : Prop where
  chain : Chain table.arena table.freeHead free
  distinct : free.Nodup
  complete : ∀ slot next,
    table.arena[slot]? = some (.vacant next) → slot ∈ free

theorem Chain.congr {arena changed : Array Slot} {head : Option Nat}
    {free : List Nat} (chain : Chain arena head free)
    (same : ∀ slot ∈ free, changed[slot]? = arena[slot]?) :
    Chain changed head free := by
  induction chain with
  | nil =>
      exact .nil
  | cons vacant others inductionHypothesis =>
      refine .cons ?_ (inductionHypothesis fun slot member =>
        same slot (List.mem_cons_of_mem _ member))
      rw [same _ (List.mem_cons_self ..), vacant]

theorem Chain.vacant_of_mem {arena : Array Slot} {head : Option Nat}
    {free : List Nat} (chain : Chain arena head free) {slot : Nat}
    (member : slot ∈ free) : ∃ next, arena[slot]? = some (.vacant next) := by
  induction chain with
  | nil =>
      cases member
  | cons vacant others inductionHypothesis =>
      rcases List.mem_cons.mp member with rfl | later
      · exact ⟨_, vacant⟩
      · exact inductionHypothesis later

namespace Linked

variable {table : HandleTable} {free : List Nat}

theorem empty : HandleTable.empty.Linked [] :=
  ⟨.nil, List.nodup_nil, fun slot next vacant => by
    simp [HandleTable.empty] at vacant⟩

/-- An entry that is held is not in the chain. -/
theorem notMem_of_occupant? (linked : table.Linked free) {entry : Nat}
    {held : HostValue × Nat} (found : table.occupant? entry = some held) :
    entry ∉ free := by
  intro member
  obtain ⟨next, vacant⟩ := linked.chain.vacant_of_mem member
  rw [occupant?_eq_bind, vacant] at found
  cases found

/-- The chain goes on after a change of a slot that it does not go through. -/
theorem chain_setSlot {head : Option Nat} {rest : List Nat}
    (chain : Chain table.arena head rest) {entry : Nat}
    (inside : entry < table.arena.size) (outside : entry ∉ rest)
    (slot : Slot) : Chain (table.setSlot entry slot).arena head rest := by
  refine chain.congr fun other member => ?_
  have differs : other ≠ entry := fun same => outside (same ▸ member)
  rw [getElem?_setSlot inside, if_neg differs]

/-- Giving a held entry something else to hold leaves the chain alone. -/
theorem setSlot_occupied (linked : table.Linked free) {entry : Nat}
    {held : HostValue × Nat} (found : table.occupant? entry = some held)
    (value : HostValue) (count : Nat) :
    (table.setSlot entry (.occupied value count)).Linked free := by
  have inside := lt_size_of_occupant? found
  refine ⟨chain_setSlot linked.chain inside
    (linked.notMem_of_occupant? found) _, linked.distinct,
    fun slot next vacant => ?_⟩
  rw [getElem?_setSlot inside] at vacant
  split at vacant
  · cases vacant
  · exact linked.complete slot next vacant

/-- A held entry that becomes vacant is the first of the chain. -/
theorem vacate (linked : table.Linked free) {entry : Nat}
    {held : HostValue × Nat} (found : table.occupant? entry = some held) :
    Linked { table.setSlot entry (.vacant table.freeHead) with
      freeHead := some entry } (entry :: free) := by
  have outside := linked.notMem_of_occupant? found
  have inside := lt_size_of_occupant? found
  refine ⟨.cons ?_ (chain_setSlot linked.chain inside outside _),
    List.nodup_cons.mpr ⟨outside, linked.distinct⟩, fun slot next vacant => ?_⟩
  · rw [getElem?_setSlot inside, if_pos rfl]
  · rw [getElem?_setSlot inside] at vacant
    split at vacant
    · rename_i same
      rw [same]
      exact List.mem_cons_self ..
    · exact List.mem_cons_of_mem _ (linked.complete slot next vacant)

/-- A value without a fixed handle goes to the first slot of the chain, or to
a new slot at the end. -/
theorem add (linked : table.Linked free) {value : HostValue}
    (plain : value.singleton? = none) :
    ∃ entry after, table.add value = (.ofEntry entry, after) ∧
      table.occupant? entry = none ∧
      entry < after.arena.size ∧
      (∀ other, after.occupant? other =
        if other = entry then some (value, 1) else table.occupant? other) ∧
      after.stack = table.stack ∧
      after.Linked free.tail := by
  obtain ⟨chain, distinct, complete⟩ := linked
  unfold HandleTable.add
  simp only [plain]
  cases head : table.freeHead with
  | none =>
      rw [head] at chain
      cases chain
      have vacant : table.occupant? table.arena.size = none := by
        simp [occupant?_eq_bind]
      refine ⟨table.arena.size, _, rfl, vacant, ?_, fun other => ?_, rfl,
        .nil, List.nodup_nil, fun slot next found => ?_⟩
      · simp
      · simp only [occupant?_eq_bind, Array.getElem?_push]
        split
        · rfl
        · rfl
      · simp only [Array.getElem?_push] at found
        split at found
        · cases found
        · exact complete slot next found
  | some entry =>
      rw [head] at chain
      cases chain with
      | cons vacant others =>
          -- The head leaves the chain, so what its slot holds from now on
          -- does not matter to the rest.
          rename_i next rest
          obtain ⟨fresh, distinctRest⟩ := List.nodup_cons.mp distinct
          obtain ⟨inside, -⟩ := Array.getElem?_eq_some_iff.mp vacant
          have nextFree : table.nextFree entry = next := by
            rw [HandleTable.nextFree, vacant]
          refine ⟨entry, _, rfl, ?_, ?_, fun other => ?_, rfl, ?_,
            distinctRest, fun slot after found => ?_⟩
          · rw [occupant?_eq_bind, vacant]
            rfl
          · simpa [setSlot] using inside
          · exact occupant?_setSlot inside _ other
          · rw [nextFree]
            exact chain_setSlot others inside fresh _
          · rw [getElem?_setSlot inside] at found
            split at found
            · cases found
            · rename_i differs
              exact (List.mem_cons.mp (complete slot after found)).resolve_left
                differs

end Linked

end HandleTable

end KeymapViewer
