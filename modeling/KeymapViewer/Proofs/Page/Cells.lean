import KeymapViewer.Page.Arena
import Mathlib.Data.List.Perm.Basic
import Mathlib.Data.List.Nodup
import Mathlib.Data.List.Range

/-!
What the slots of a page hold, as a list of cells in any order. Each change of
a page touches the cells it names and leaves all others as they are.
-/

namespace KeymapViewer.Page

open Markup

/-- A slot with the node in it. -/
abbrev Cell : Type := Nat × Node

/-- The nodes of a page are those of the cells, and its free slots are all
others, each listed once. -/
structure Holds (page : Page) (cells : List Cell) : Prop where
  node : ∀ slot node, page.node? slot = some node ↔ (slot, node) ∈ cells
  distinct : (cells.map (·.1)).Nodup
  free : ∀ slot,
    slot ∈ page.free ↔ slot < page.slots.size ∧ page.node? slot = none
  freeDistinct : page.free.Nodup

theorem lt_size_of_node? {page : Page} {slot : Nat} {node : Node}
    (found : page.node? slot = some node) : slot < page.slots.size := by
  by_contra outside
  have missing : page.slots[slot]? = none :=
    Array.getElem?_eq_none (Nat.le_of_not_lt outside)
  simp [node?, missing] at found

/-! ## Reading after a change -/

theorem node?_setNode {page : Page} {slot : Nat}
    (inside : slot < page.slots.size) (node : Node) (other : Nat) :
    (page.setNode slot node).node? other =
      if other = slot then some node else page.node? other := by
  unfold node? setNode
  simp only [Array.getElem?_setIfInBounds]
  by_cases same : slot = other
  · subst same
    simp [inside]
  · simp [same, Ne.symm same]

theorem node?_vacate (page : Page) (slot other : Nat) :
    (page.vacate slot).node? other =
      if other = slot then none else page.node? other := by
  unfold node? vacate
  simp only [Array.getElem?_setIfInBounds]
  by_cases same : slot = other
  · subst same
    by_cases inside : slot < page.slots.size
    · simp [inside]
    · simp [inside]
  · simp [same, Ne.symm same]

theorem node?_push (page : Page) (node : Node) (other : Nat) :
    Page.node? { page with slots := page.slots.push (some node) } other =
      if other = page.slots.size then some node else page.node? other := by
  unfold node?
  simp only [Array.getElem?_push]
  by_cases same : other = page.slots.size
  · simp [same]
  · simp [same]

@[simp]
theorem size_setNode (page : Page) (slot : Nat) (node : Node) :
    (page.setNode slot node).slots.size = page.slots.size := by
  simp [setNode]

@[simp]
theorem size_vacate (page : Page) (slot : Nat) :
    (page.vacate slot).slots.size = page.slots.size := by
  simp [vacate]

theorem occupy_of_full {page : Page} (full : page.free = []) (node : Node) :
    page.occupy node =
      ({ page with slots := page.slots.push (some node) },
        page.slots.size) := by
  simp only [occupy, full]

theorem occupy_of_free {page : Page} {slot : Nat} {others : List Nat}
    (free : page.free = slot :: others) (node : Node) :
    page.occupy node =
      (Page.setNode { page with free := others } slot node, slot) := by
  simp only [occupy, free, setNode]

namespace Holds

variable {page : Page} {cells rest : List Cell} {slot : Nat} {node : Node}

/-! ## Consequences -/

theorem perm (holds : page.Holds cells) (same : cells.Perm rest) :
    page.Holds rest where
  node slot node := by
    rw [holds.node, same.mem_iff]
  distinct := (same.map _).nodup_iff.mp holds.distinct
  free := holds.free
  freeDistinct := holds.freeDistinct

theorem lookup (holds : page.Holds ((slot, node) :: rest)) :
    page.node? slot = some node :=
  (holds.node slot node).mpr (List.mem_cons_self ..)

theorem occupied_iff (holds : page.Holds cells) (slot : Nat) :
    (page.node? slot).isSome ↔ slot ∈ cells.map (·.1) := by
  rw [Option.isSome_iff_exists]
  constructor
  · rintro ⟨node, found⟩
    exact List.mem_map_of_mem ((holds.node slot node).mp found)
  · intro member
    obtain ⟨⟨other, node⟩, isCell, rfl⟩ := List.mem_map.mp member
    exact ⟨node, (holds.node other node).mpr isCell⟩

theorem vacant_iff (holds : page.Holds cells) (slot : Nat) :
    page.node? slot = none ↔ slot ∉ cells.map (·.1) := by
  rw [← holds.occupied_iff, Option.isSome_iff_ne_none, not_not]

/-- The occupied and the free slots together are all slots. -/
theorem slots_perm (holds : page.Holds cells) :
    (page.free ++ cells.map (·.1)).Perm (List.range page.slots.size) := by
  have apart : (page.free ++ cells.map (·.1)).Nodup := by
    refine List.nodup_append'.mpr
      ⟨holds.freeDistinct, holds.distinct, fun slot isFree isCell => ?_⟩
    exact (holds.vacant_iff slot).mp ((holds.free slot).mp isFree).2 isCell
  refine (List.perm_ext_iff_of_nodup apart List.nodup_range).mpr fun slot => ?_
  rw [List.mem_append, List.mem_range, holds.free, holds.vacant_iff]
  constructor
  · rintro (⟨inside, -⟩ | member)
    · exact inside
    · obtain ⟨node, found⟩ :=
        Option.isSome_iff_exists.mp ((holds.occupied_iff slot).mpr member)
      exact lt_size_of_node? found
  · intro inside
    by_cases member : slot ∈ cells.map (·.1)
    · exact .inr member
    · exact .inl ⟨inside, member⟩

theorem length_add_length (holds : page.Holds cells) :
    page.free.length + cells.length = page.slots.size := by
  have same := holds.slots_perm.length_eq
  rwa [List.length_append, List.length_map, List.length_range] at same

theorem nodeCount_eq (holds : page.Holds cells) :
    page.nodeCount = cells.length := by
  have occupied :
      ((List.range page.slots.size).filter
        (fun slot => (page.node? slot).isSome)).Perm (cells.map (·.1)) := by
    refine (List.perm_ext_iff_of_nodup
      (List.nodup_range.filter _) holds.distinct).mpr fun slot => ?_
    rw [List.mem_filter, List.mem_range, holds.occupied_iff]
    refine and_iff_right_of_imp fun member => ?_
    obtain ⟨node, found⟩ :=
      Option.isSome_iff_exists.mp ((holds.occupied_iff slot).mpr member)
    exact lt_size_of_node? found
  have listed :
      page.slots.toList =
        (List.range page.slots.size).map page.node? := by
    refine List.ext_getElem (by simp) fun slot inside _ => ?_
    have known : slot < page.slots.size := by simpa using inside
    simp [node?, known]
  have counted := occupied.length_eq
  rw [List.length_map] at counted
  rw [nodeCount, ← Array.countP_toList, listed, List.countP_map,
    List.countP_eq_length_filter]
  exact counted

theorem distinct_cons (holds : page.Holds ((slot, node) :: rest)) :
    slot ∉ rest.map (·.1) ∧ (rest.map (·.1)).Nodup := by
  have distinct := holds.distinct
  rwa [List.map_cons, List.nodup_cons] at distinct

/-- The node of a cell is known from its slot. -/
theorem mem_cons_iff (holds : page.Holds ((slot, node) :: rest))
    (other : Nat) (found : Node) :
    (other, found) ∈ rest ↔
      other ≠ slot ∧ page.node? other = some found := by
  rw [holds.node, List.mem_cons]
  constructor
  · intro member
    have differs : other ≠ slot := by
      rintro rfl
      exact holds.distinct_cons.1 (List.mem_map_of_mem member)
    exact ⟨differs, .inr member⟩
  · rintro ⟨differs, same | member⟩
    · exact absurd (congrArg Prod.fst same) differs
    · exact member

/-! ## Changes -/

theorem setNode (holds : page.Holds ((slot, node) :: rest))
    (changed : Node) :
    (page.setNode slot changed).Holds ((slot, changed) :: rest) := by
  have inside := lt_size_of_node? holds.lookup
  refine ⟨fun other found => ?_, ?_, fun other => ?_, holds.freeDistinct⟩
  · rw [node?_setNode inside, List.mem_cons, holds.mem_cons_iff]
    by_cases same : other = slot
    · simp [same, eq_comm]
    · simp [same]
  · exact holds.distinct
  · change other ∈ page.free ↔ _
    rw [node?_setNode inside, size_setNode, holds.free]
    by_cases same : other = slot
    · subst same
      simp [holds.lookup]
    · simp [same]

theorem vacate (holds : page.Holds ((slot, node) :: rest)) :
    (page.vacate slot).Holds rest := by
  have inside := lt_size_of_node? holds.lookup
  refine ⟨fun other found => ?_, holds.distinct_cons.2, fun other => ?_, ?_⟩
  · rw [node?_vacate, holds.mem_cons_iff]
    by_cases same : other = slot
    · simp [same]
    · simp [same]
  · change other ∈ slot :: page.free ↔ _
    rw [node?_vacate, size_vacate, List.mem_cons, holds.free]
    by_cases same : other = slot
    · simp [same, inside]
    · simp [same]
  · refine List.nodup_cons.mpr ⟨fun isFree => ?_, holds.freeDistinct⟩
    have vacant := ((holds.free slot).mp isFree).2
    rw [holds.lookup] at vacant
    cases vacant

/-- A page that differs in one slot, where there was no node before. -/
theorem cons (holds : page.Holds cells) (vacant : page.node? slot = none)
    {filled : Page}
    (reads : ∀ other, filled.node? other =
      if other = slot then some node else page.node? other)
    (free : ∀ other, other ∈ filled.free ↔
      other < filled.slots.size ∧ filled.node? other = none)
    (freeDistinct : filled.free.Nodup) :
    filled.Holds ((slot, node) :: cells) := by
  have fresh := (holds.vacant_iff slot).mp vacant
  refine ⟨fun other found => ?_,
    List.nodup_cons.mpr ⟨fresh, holds.distinct⟩, free, freeDistinct⟩
  rw [reads, List.mem_cons, ← holds.node]
  by_cases same : other = slot
  · subst same
    simp [vacant, eq_comm]
  · simp [same]

/-- A node goes to a slot that held none, and the slots become more only if
all of them are occupied. -/
theorem occupy (holds : page.Holds cells) (node : Node) :
    (page.occupy node).1.Holds (((page.occupy node).2, node) :: cells) ∧
      (page.occupy node).1.slots.size =
        max page.slots.size (cells.length + 1) := by
  have total := holds.length_add_length
  -- Without a free slot there are as many cells as slots, and with one the
  -- cells leave room for it.
  cases freeSlots : page.free with
  | nil =>
      rw [freeSlots, List.length_nil, Nat.zero_add] at total
      have vacant : page.node? page.slots.size = none := by
        simp [node?]
      rw [occupy_of_full freeSlots]
      refine ⟨holds.cons vacant (node?_push page node) (fun other => ?_)
        holds.freeDistinct, ?_⟩
      · rw [node?_push, Array.size_push, holds.free]
        by_cases same : other = page.slots.size
        · simp [same]
        · have bound :
              other < page.slots.size + 1 ↔ other < page.slots.size := by
            omega
          simp [same, bound]
      · rw [Array.size_push]
        omega
  | cons slot others =>
      rw [freeSlots, List.length_cons] at total
      have isFree : slot ∈ page.free := by
        rw [freeSlots]
        exact List.mem_cons_self ..
      obtain ⟨inside, vacant⟩ := (holds.free slot).mp isFree
      have apart : slot ∉ others ∧ others.Nodup := by
        have distinct := holds.freeDistinct
        rwa [freeSlots, List.nodup_cons] at distinct
      rw [occupy_of_free freeSlots]
      have reads (other : Nat) :
          (Page.setNode { page with free := others } slot node).node? other =
            if other = slot then some node else page.node? other :=
        @node?_setNode { page with free := others } slot inside node other
      refine ⟨holds.cons vacant reads (fun other => ?_) apart.2, ?_⟩
      · have before := holds.free other
        rw [freeSlots, List.mem_cons] at before
        change other ∈ others ↔ _
        rw [reads, size_setNode]
        by_cases same : other = slot
        · simp [same, apart.1]
        · simpa [same] using before
      · rw [size_setNode]
        change page.slots.size = _
        omega

theorem insert? {parent : Nat} {content : Content} {children : List Nat}
    (holds : page.Holds ((parent, ⟨content, children⟩) :: rest))
    (added : Content) :
    ∃ after slot, page.insert? added parent = some (after, slot) ∧
      after.Holds ((slot, ⟨added, []⟩) ::
        (parent, ⟨content, children ++ [slot]⟩) :: rest) ∧
      after.slots.size = max page.slots.size (rest.length + 2) := by
  obtain ⟨occupied, size⟩ := holds.occupy ⟨added, []⟩
  unfold Page.insert?
  generalize page.occupy ⟨added, []⟩ = occupying at occupied size
  obtain ⟨between, slot⟩ := occupying
  have swapped := occupied.perm (.swap ..)
  simp only [swapped.lookup]
  refine ⟨_, slot, rfl, (swapped.setNode _).perm (.swap ..), ?_⟩
  rw [size_setNode, size, List.length_cons]

end Holds

end KeymapViewer.Page
