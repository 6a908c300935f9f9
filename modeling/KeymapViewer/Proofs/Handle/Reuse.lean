import KeymapViewer.Proofs.Handle.Refinement
import KeymapViewer.Proofs.Peak
import Mathlib.Data.List.Count

/-!
Reuse of the slots of a handle table. What becomes vacant is put in front of
the chain, and a value that is stored takes the front; so the chain has all
vacant slots in the order in which they became vacant, and a table needs no
more slots than it had live entries at one time.
-/

namespace KeymapViewer.HandleTable

open Handle History

namespace History

/-- The entry that an event makes vacant: that of a handle whose last reference
is given back. -/
def vacated? (earlier : History) : Event → Option Nat
  | ⟨.release handle, .done⟩ =>
    if handle.IsEntry ∧ (balance? handle earlier).map (·.2) = some 1 then
      some handle.entry
    else none
  | _ => none

theorem vacated?_of_balance? {earlier : History} {handle : Handle}
    {value : HostValue} {count : Nat} (isEntry : handle.IsEntry)
    (held : balance? handle earlier = some (value, count)) :
    vacated? earlier ⟨.release handle, .done⟩ =
      if count = 1 then some handle.entry else none := by
  simp only [vacated?, isEntry, held, Option.map_some, Option.some.injEq,
    true_and]

/-- The entries that became vacant, the last one first. -/
def reclaimed : History → List Nat
  | [] => []
  | event :: earlier => (vacated? earlier event).toList ++ reclaimed earlier

/-- An entry became vacant after another one did so for the last time. -/
def ReclaimedAfter (history : History) (first second : Nat) : Prop :=
  (reclaimed history).idxOf first < (reclaimed history).idxOf second

/-- Entries that became vacant, the one that did so last in front. -/
structure LatestFirst (history : History) (free : List Nat) : Prop where
  listed : ∀ slot ∈ free, slot ∈ reclaimed history
  ordered : free.Pairwise (ReclaimedAfter history)

namespace LatestFirst

variable {history : History} {event : Event} {free : List Nat} {slot : Nat}

theorem tail (latest : LatestFirst history free) :
    LatestFirst history free.tail :=
  ⟨fun slot member => latest.listed slot (List.mem_of_mem_tail member),
    latest.ordered.tail⟩

theorem of_none (latest : LatestFirst history free)
    (nothing : vacated? history event = none) :
    LatestFirst (event :: history) free := by
  have same : reclaimed (event :: history) = reclaimed history := by
    rw [reclaimed, nothing, Option.toList_none, List.nil_append]
  constructor
  · intro slot member
    rw [same]
    exact latest.listed slot member
  · apply latest.ordered.imp
    intro first second before
    rw [ReclaimedAfter, same]
    exact before

theorem of_some (latest : LatestFirst history free)
    (vacated : vacated? history event = some slot) (fresh : slot ∉ free) :
    LatestFirst (event :: history) (slot :: free) := by
  have longer : reclaimed (event :: history) = slot :: reclaimed history := by
    rw [reclaimed, vacated, Option.toList_some, List.singleton_append]
  have shifted : ∀ other ∈ free, (reclaimed (event :: history)).idxOf other =
      (reclaimed history).idxOf other + 1 := by
    intro other member
    have differs : slot ≠ other := fun same => fresh (same ▸ member)
    rw [longer, List.idxOf_cons_ne _ differs]
  constructor
  · intro other member
    rw [longer]
    rcases List.mem_cons.mp member with rfl | earlier
    · exact List.mem_cons_self ..
    · exact List.mem_cons_of_mem _ (latest.listed other earlier)
  · apply List.pairwise_cons.mpr
    constructor
    · intro other member
      rw [ReclaimedAfter, shifted other member, longer, List.idxOf_cons_self]
      exact Nat.succ_pos _
    · apply latest.ordered.imp_of_mem
      intro first second memberFirst memberSecond before
      rw [ReclaimedAfter, shifted first memberFirst,
        shifted second memberSecond]
      exact Nat.succ_lt_succ before

end LatestFirst

end History

/-! ## The chain and the entries -/

def Slot.isVacant : Slot → Bool
  | .occupied _ _ => Bool.false
  | .vacant _ => Bool.true

theorem Slot.isVacant_iff (slot : Slot) :
    slot.isVacant = Bool.true ↔ ∃ next, slot = .vacant next := by
  cases slot with
  | occupied value count =>
      simp [isVacant]
  | vacant next =>
      simp [isVacant]

theorem liveCount_eq (table : HandleTable) :
    table.liveCount = table.arena.toList.countP (! ·.isVacant) := by
  rw [liveCount, ← Array.countP_toList]
  congr 1
  funext slot
  cases slot with
  | occupied value count =>
      rfl
  | vacant next =>
      rfl

section

variable {arena : Array Slot} {head : Option Nat} {free rest : List Nat}
  {slot : Nat}

theorem Chain.head_eq (chain : Chain arena head free) :
    head = free.head? := by
  cases chain with
  | nil =>
      rfl
  | cons vacant others =>
      rfl

/-- A slot of the chain names the one that comes after it. -/
theorem Chain.getElem?_eq (chain : Chain arena head (slot :: rest)) :
    arena[slot]? = some (.vacant rest.head?) := by
  cases chain with
  | cons vacant others =>
      rw [vacant, others.head_eq]

end

namespace Linked

variable {table : HandleTable} {free : List Nat}

theorem mem_iff (linked : table.Linked free) (slot : Nat) :
    slot ∈ free ↔ ∃ next, table.arena[slot]? = some (.vacant next) := by
  constructor
  · exact linked.chain.vacant_of_mem
  · rintro ⟨next, vacant⟩
    exact linked.complete slot next vacant

/-- The head of the chain is never a slot that is held. -/
theorem vacant_freeHead (linked : table.Linked free) {slot : Nat}
    (head : table.freeHead = some slot) :
    ∃ next, table.arena[slot]? = some (.vacant next) := by
  rw [linked.chain.head_eq] at head
  exact linked.chain.vacant_of_mem (List.mem_of_mem_head? head)

theorem vacancies_perm (linked : table.Linked free) :
    free.Perm (table.arena.toList.findIdxs Slot.isVacant) := by
  apply (List.perm_ext_iff_of_nodup linked.distinct
    List.nodup_findIdxs).mpr
  intro slot
  rw [linked.mem_iff, List.mem_findIdxs_iff_exists_getElem_pos]
  constructor
  · rintro ⟨next, vacant⟩
    obtain ⟨inside, here⟩ := Array.getElem?_eq_some_iff.mp vacant
    refine ⟨inside, (Slot.isVacant_iff _).mpr ⟨next, ?_⟩⟩
    rw [Array.getElem_toList, here]
  · rintro ⟨inside, vacant⟩
    obtain ⟨next, here⟩ := (Slot.isVacant_iff _).mp vacant
    rw [Array.getElem_toList] at here
    exact ⟨next, Array.getElem?_eq_some_iff.mpr ⟨inside, here⟩⟩

/-- Every slot is held or in the chain. -/
theorem liveCount_add_length (linked : table.Linked free) :
    table.liveCount + free.length = table.arena.size := by
  have vacancies := linked.vacancies_perm.length_eq
  rw [List.length_findIdxs] at vacancies
  rw [liveCount_eq, vacancies, ← Array.length_toList,
    List.length_eq_countP_add_countP Slot.isVacant, Nat.add_comm]
  simp

/-- A value without a fixed handle goes to the first slot of the chain. -/
theorem add_of_cons {slot : Nat} {rest : List Nat}
    (linked : table.Linked (slot :: rest)) {value : HostValue}
    (plain : value.singleton? = none) :
    table.add value = (.ofEntry slot,
      { table.setSlot slot (.occupied value 1) with
        freeHead := rest.head? }) := by
  have head : table.freeHead = some slot := linked.chain.head_eq
  have next : table.nextFree slot = rest.head? := by
    rw [nextFree, linked.chain.getElem?_eq]
  simp only [HandleTable.add, plain, head, next]

/-- When all slots are held, it goes to a new one. -/
theorem add_of_nil (linked : table.Linked []) {value : HostValue}
    (plain : value.singleton? = none) :
    table.add value = (.ofEntry table.arena.size,
      { table with arena := table.arena.push (.occupied value 1) }) := by
  have head : table.freeHead = none := linked.chain.head_eq
  simp only [HandleTable.add, plain, head]

theorem linked_add (linked : table.Linked free) {value : HostValue}
    (plain : value.singleton? = none) :
    (table.add value).2.Linked free.tail := by
  obtain ⟨entry, after, added, -, -, -, -, left⟩ := linked.add plain
  rw [added]
  exact left

end Linked

/-! ## One operation -/

/-- What an operation can do to the slots of a table, with the one that it
makes vacant: it leaves the chain alone, takes its first slot or a new one, or
puts a slot in front. -/
inductive Turns (table : HandleTable) (free : List Nat) :
    Option Nat → HandleTable → List Nat → Prop
  | keep {after : HandleTable} (linked : after.Linked free)
      (size : after.arena.size = table.arena.size) :
      Turns table free none after free
  | take {after : HandleTable} (linked : after.Linked free.tail)
      (size : after.arena.size =
        if free = [] then table.arena.size + 1 else table.arena.size) :
      Turns table free none after free.tail
  | vacate {after : HandleTable} {slot : Nat}
      (linked : after.Linked (slot :: free))
      (size : after.arena.size = table.arena.size) :
      Turns table free (some slot) after (slot :: free)

namespace Turns

variable {table after : HandleTable} {free left : List Nat}
  {vacated : Option Nat}

theorem linked (turns : Turns table free vacated after left) :
    after.Linked left := by
  cases turns with
  | keep linked size =>
      exact linked
  | take linked size =>
      exact linked
  | vacate linked size =>
      exact linked

theorem latestFirst {history : History} {event : Event}
    (turns : Turns table free (vacated? history event) after left)
    (latest : LatestFirst history free) :
    LatestFirst (event :: history) left := by
  generalize nothing : vacated? history event = vacated at turns
  cases turns with
  | keep linked size =>
      exact latest.of_none nothing
  | take linked size =>
      exact latest.tail.of_none nothing
  | vacate linked size =>
      exact latest.of_some nothing (List.nodup_cons.mp linked.distinct).1

/-- A table gets another slot only when all of its slots are held. -/
theorem size_eq_max (turns : Turns table free vacated after left)
    (linked : table.Linked free) :
    after.arena.size = max table.arena.size after.liveCount := by
  have before := linked.liveCount_add_length
  have now := turns.linked.liveCount_add_length
  cases turns with
  | keep linkedAfter size =>
      omega
  | take linkedAfter size =>
      by_cases full : free = []
      · subst full
        rw [if_pos rfl] at size
        rw [List.tail_nil, List.length_nil] at now
        omega
      · rw [if_neg full] at size
        omega
  | vacate linkedAfter size =>
      omega

theorem add (linked : table.Linked free) (value : HostValue) :
    ∃ left, Turns table free none (table.add value).2 left := by
  cases fixed : value.singleton? with
  | some handle =>
      have same : (table.add value).2 = table := by
        rw [HandleTable.add, fixed]
      rw [same]
      exact ⟨free, .keep linked rfl⟩
  | none =>
      refine ⟨free.tail, .take (linked.linked_add fixed) ?_⟩
      cases free with
      | nil =>
          rw [linked.add_of_nil fixed, if_pos rfl, Array.size_push]
      | cons slot rest =>
          rw [linked.add_of_cons fixed, if_neg (List.cons_ne_nil slot rest)]
          exact Array.size_setIfInBounds ..

theorem clone (linked : table.Linked free) (handle : Handle) :
    ∃ left,
      Turns table free none (table.perform (.clone handle)).2 left := by
  have kept : Turns table free none table free := .keep linked rfl
  simp only [perform, HandleTable.clone]
  by_cases singleton : handle.isSingleton = Bool.true
  · rw [if_pos singleton]
    exact ⟨free, kept⟩
  · rw [if_neg singleton]
    by_cases borrowed : handle.isStack = Bool.true
    · rw [if_pos borrowed]
      cases table.stack[handle.index]? with
      | none =>
          exact ⟨free, kept⟩
      | some value =>
          exact add linked value
    · rw [if_neg borrowed]
      cases found : table.occupant? handle.entry with
      | none =>
          exact ⟨free, kept⟩
      | some held =>
          obtain ⟨value, count⟩ := held
          exact ⟨free, .keep (linked.setSlot_occupied found value (count + 1))
            (Array.size_setIfInBounds ..)⟩

/-- A release makes the entry of its handle vacant exactly when the history
has one reference to it left. -/
theorem release {history : History} (matched : Matches table history)
    (linked : table.Linked free) (handle : Handle) :
    ∃ left,
      Turns table free
        (vacated? history
          ⟨.release handle, (table.perform (.release handle)).1⟩)
        (table.perform (.release handle)).2 left := by
  have kept : Turns table free none table free := .keep linked rfl
  simp only [perform, HandleTable.release]
  by_cases singleton : handle.isSingleton = Bool.true
  · have other : ¬ handle.IsEntry := by
      intro isEntry
      rw [IsEntry, singleton] at isEntry
      cases isEntry.2
    rw [if_pos singleton]
    simp only [vacated?, other, false_and, if_false]
    exact ⟨free, kept⟩
  · rw [if_neg singleton]
    by_cases borrowed : handle.isStack = Bool.true
    · rw [if_pos borrowed]
      exact ⟨free, kept⟩
    · rw [if_neg borrowed]
      have isEntry : handle.IsEntry :=
        ⟨eq_false_of_ne_true borrowed, eq_false_of_ne_true singleton⟩
      have balance := matched.occupant?_entry isEntry
      cases found : table.occupant? handle.entry with
      | none =>
          exact ⟨free, kept⟩
      | some held =>
          obtain ⟨value, count⟩ := held
          rw [found] at balance
          have vacated := vacated?_of_balance? isEntry balance.symm
          have positive : 0 < count := by
            obtain ⟨later, -, outstanding, rfl⟩ :=
              balance?_eq_some_iff.mp balance.symm
            omega
          by_cases more : 1 < count
          · rw [if_neg (by omega)] at vacated
            simp only [more, if_true, vacated]
            exact ⟨free, .keep
              (linked.setSlot_occupied found value (count - 1))
              (Array.size_setIfInBounds ..)⟩
          · rw [if_pos (by omega)] at vacated
            simp only [more, if_false, vacated]
            exact ⟨handle.entry :: free, .vacate (linked.vacate found)
              (Array.size_setIfInBounds ..)⟩

theorem perform {history : History} (matched : Matches table history)
    (linked : table.Linked free) (operation : Operation) :
    ∃ left,
      Turns table free
        (vacated? history ⟨operation, (table.perform operation).1⟩)
        (table.perform operation).2 left := by
  have onStack (stack : Array HostValue) :
      Turns table free none { table with stack } free :=
    .keep ⟨linked.chain, linked.distinct, linked.complete⟩ rfl
  cases operation with
  | add value =>
      exact add linked value
  | clone handle =>
      exact clone linked handle
  | release handle =>
      exact release matched linked handle
  | push value =>
      exact ⟨free, onStack (table.stack.push value)⟩
  | pop =>
      exact ⟨free, onStack table.stack.pop⟩
  | clear =>
      exact ⟨free, onStack #[]⟩

end Turns

/-! ## Runs -/

/-- The numbers of live entries on the way of a run. -/
def liveCounts (operations : List Operation) : Set Nat :=
  {count | ∃ earlier, earlier <+: operations ∧
    count = (run earlier).table.liveCount}

theorem StaysWithin.of_prefix {earlier operations : List Operation}
    (within : StaysWithin operations) (isPrefix : earlier <+: operations) :
    StaysWithin earlier := by
  intro part member
  apply within
  rw [List.mem_inits] at member ⊢
  exact member.trans isPrefix

theorem turns_run {operations : List Operation}
    (within : StaysWithin operations) :
    ∃ free, (run operations).table.Linked free ∧
      LatestFirst (run operations).history free := by
  induction operations using List.reverseRecOn with
  | nil =>
      exact ⟨[], .empty, nofun, List.Pairwise.nil⟩
  | append_singleton operations operation inductionHypothesis =>
      obtain ⟨free, linked, latest⟩ := inductionHypothesis within.of_append
      obtain ⟨left, turns⟩ :=
        Turns.perform (matches_run within.of_append) linked operation
      rw [run_append_singleton]
      exact ⟨left, turns.linked, turns.latestFirst latest⟩

/-- A table never has more slots than it had live entries at one time. -/
theorem isGreatest_liveCounts {operations : List Operation}
    (within : StaysWithin operations) :
    IsGreatest (liveCounts operations)
      (run operations).table.arena.size := by
  let size (session : Session) : Nat := session.table.arena.size
  let count (session : Session) : Nat := session.table.liveCount
  have start : size ⟨[], .empty⟩ = count ⟨[], .empty⟩ := rfl
  apply isGreatest_amounts start
  intro earlier operation isPrefix
  have withinEarlier : StaysWithin earlier :=
    within.of_prefix ((List.prefix_append ..).trans isPrefix)
  obtain ⟨free, linked, -⟩ := turns_run withinEarlier
  obtain ⟨left, turns⟩ :=
    Turns.perform (matches_run withinEarlier) linked operation
  exact turns.size_eq_max linked

/-- The slots of a table, of which the vacant ones are in a chain. -/
structure LosesNoSlot (table : HandleTable) (history : History)
    (free : List Nat) : Prop where
  chain : Chain table.arena table.freeHead free
  distinct : free.Nodup
  vacant : ∀ slot,
    slot ∈ free ↔ ∃ next, table.arena[slot]? = some (.vacant next)
  latestFirst : LatestFirst history free
  /-- A value is never stored over one that is held. -/
  head : ∀ slot, table.freeHead = some slot →
    ∃ next, table.arena[slot]? = some (.vacant next)
  reuses : ∀ slot rest value, free = slot :: rest →
    value.singleton? = none →
    table.add value = (.ofEntry slot,
      { table.setSlot slot (.occupied value 1) with freeHead := rest.head? })
  appends : ∀ value, free = [] → value.singleton? = none →
    table.add value = (.ofEntry table.arena.size,
      { table with arena := table.arena.push (.occupied value 1) })
  count : table.liveCount + free.length = table.arena.size

theorem Linked.losesNoSlot {table : HandleTable} {history : History}
    {free : List Nat} (linked : table.Linked free)
    (latest : LatestFirst history free) : LosesNoSlot table history free where
  chain := linked.chain
  distinct := linked.distinct
  vacant := linked.mem_iff
  latestFirst := latest
  head _ head := linked.vacant_freeHead head
  reuses slot rest value same plain := by
    subst same
    exact linked.add_of_cons plain
  appends value same plain := by
    subst same
    exact linked.add_of_nil plain
  count := linked.liveCount_add_length

/-- No slot is lost over a run: each is held or in the chain of the vacant
ones, which are reused in the order in which they became vacant, the last one
first. -/
theorem run_losesNoSlot (operations : List Operation)
    (within : StaysWithin operations) :
    (∃ free, LosesNoSlot (run operations).table (run operations).history
      free) ∧
    IsGreatest (liveCounts operations)
      (run operations).table.arena.size := by
  obtain ⟨free, linked, latest⟩ := turns_run within
  exact ⟨⟨free, linked.losesNoSlot latest⟩, isGreatest_liveCounts within⟩

theorem run_losesNoSlot_reuse :
    let operations : List Operation :=
      [.add (.string "a"), .add (.string "b"), .add .document, .clone ⟨12⟩,
        .release ⟨8⟩, .release ⟨12⟩, .release ⟨10⟩, .release ⟨12⟩,
        .add (.element "map")]
    StaysWithin operations ∧
      reclaimed (run operations).history = [2, 1, 0] ∧
      (run operations).table.freeHead = some 1 ∧
      (∃ free,
        LosesNoSlot (run operations).table (run operations).history free) ∧
      IsGreatest (liveCounts operations)
        (run operations).table.arena.size :=
  ⟨by decide, by decide, by decide, run_losesNoSlot _ (by decide)⟩

end KeymapViewer.HandleTable
