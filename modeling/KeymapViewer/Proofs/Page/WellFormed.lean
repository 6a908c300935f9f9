import KeymapViewer.Proofs.Page.Document
import Mathlib.Data.Set.Card
import Mathlib.Logic.Relation

/-!
What a page that draws a document looks like from the outside: its occupied
slots are a tree with the document at the root, and nothing that is done to it
follows a slot number to a vacant slot.
-/

namespace KeymapViewer.Page

open Markup Layout

def HasChild (page : Page) (parent child : Nat) : Prop :=
  ∃ node, page.node? parent = some node ∧ child ∈ node.children

/-- The slots at the end of a path from the root. -/
def Reaches (page : Page) (slot : Nat) : Prop :=
  Relation.ReflTransGen page.HasChild root slot

/-- The occupied slots are a tree at whose root is the document, the free slots
are the others, and the index leads to elements. -/
structure WellFormed (page : Page) : Prop where
  document : ∃ children, page.node? root = some ⟨.document, children⟩
  occupiedOfChild : ∀ parent child,
    page.HasChild parent child → (page.node? child).isSome
  rootOutermost : ∀ parent, ¬ page.HasChild parent root
  uniqueParent : ∀ slot, (page.node? slot).isSome → slot ≠ root →
    ∃! parent, page.HasChild parent slot
  listedOnce : ∀ parent node, page.node? parent = some node →
    node.children.Nodup
  reached : ∀ slot, (page.node? slot).isSome → page.Reaches slot
  free : ∀ slot,
    slot ∈ page.free ↔ slot < page.slots.size ∧ page.node? slot = none
  freeOnce : page.free.Nodup
  indexed : ∀ entry ∈ page.ids, page.IsElement entry.2

/-- Reading a page and changing its elements never comes to a vacant slot. -/
structure Unbroken (page : Page) : Prop where
  reads : ∀ slot, (page.node? slot).isSome → (page.forestBelow? slot).isSome
  edits : ∀ entry ∈ page.ids, ∀ change,
    (page.editAttributes? entry.2 change).isSome
  sets : ∀ entry ∈ page.ids, ∀ name value,
    (page.setAttributeAt? entry.2 name value).isSome
  replaces : ∀ entry ∈ page.ids, ∀ markup,
    (page.replaceBelow? entry.2 markup).isSome

/-! ## References -/

mutual

/-- Every slot of a layout but the first is referred to once. -/
theorem Layout.references_perm (layout : Layout) :
    (layout.slot :: layout.cells.flatMap (·.2.children)).Perm
      (layout.cells.map (·.1)) := by
  cases layout with
  | node slot content children =>
      rw [cells, List.flatMap_cons, List.map_cons]
      exact (Layout.referencesAll_perm children).cons slot

theorem Layout.referencesAll_perm (layouts : List Layout) :
    (layouts.map Layout.slot ++
        (cellsAll layouts).flatMap (·.2.children)).Perm
      ((cellsAll layouts).map (·.1)) := by
  cases layouts with
  | nil =>
      exact .refl _
  | cons layout rest =>
      rw [cellsAll, List.flatMap_append, List.map_append, List.map_cons]
      refine .trans ?_ ((Layout.references_perm layout).append
        (Layout.referencesAll_perm rest))
      rw [List.cons_append, List.cons_append, ← List.append_assoc,
        ← List.append_assoc]
      exact (List.perm_append_comm.append_right _).cons _

end

theorem references_perm (layouts : List Layout) :
    (root :: (documentCells layouts).flatMap (·.2.children)).Perm
      ((documentCells layouts).map (·.1)) := by
  have whole := Layout.references_perm (.node root .document layouts)
  rwa [Layout.slot, cells] at whole

namespace Draws

variable {page : Page} {layouts : List Layout}

theorem hasChild_iff (draws : page.Draws layouts) (parent child : Nat) :
    page.HasChild parent child ↔
      ∃ node, (parent, node) ∈ documentCells layouts ∧
        child ∈ node.children := by
  unfold HasChild
  simp only [draws.holds.node]

theorem exists_parent_iff (draws : page.Draws layouts) (child : Nat) :
    (∃ parent, page.HasChild parent child) ↔
      child ∈ (documentCells layouts).flatMap (·.2.children) := by
  simp only [draws.hasChild_iff, List.mem_flatMap, Prod.exists]

theorem references_nodup (draws : page.Draws layouts) :
    root ∉ (documentCells layouts).flatMap (·.2.children) ∧
      ((documentCells layouts).flatMap (·.2.children)).Nodup := by
  have distinct :=
    (references_perm layouts).nodup_iff.mpr draws.holds.distinct
  rwa [List.nodup_cons] at distinct

theorem occupied_iff (draws : page.Draws layouts) (slot : Nat) :
    (page.node? slot).isSome ↔
      slot = root ∨
        slot ∈ (documentCells layouts).flatMap (·.2.children) := by
  rw [draws.holds.occupied_iff, ← (references_perm layouts).mem_iff,
    List.mem_cons]

theorem parent_unique (draws : page.Draws layouts) {first second child : Nat}
    (inFirst : page.HasChild first child)
    (inSecond : page.HasChild second child) : first = second := by
  obtain ⟨node, isCell, member⟩ := (draws.hasChild_iff ..).mp inFirst
  obtain ⟨other, isOtherCell, otherMember⟩ :=
    (draws.hasChild_iff ..).mp inSecond
  by_contra differs
  have : Std.Symm
      (Function.onFun List.Disjoint fun cell : Cell => cell.2.children) :=
    ⟨fun _ _ disjoint => disjoint.symm⟩
  -- A child of two nodes would stand twice among the references.
  have apart := (List.nodup_flatMap.mp draws.references_nodup.2).2.forall
    isCell isOtherCell fun same => differs (congrArg Prod.fst same)
  exact apart member otherMember

mutual

/-- All slots of a layout can be reached from its first. -/
theorem reaches_layout (layout : Layout) (shown : page.Shows layout.cells)
    (outer : page.Reaches layout.slot) :
    ∀ slot ∈ layout.cells.map (·.1), page.Reaches slot := by
  cases layout with
  | node first content children =>
      rw [cells] at shown ⊢
      intro slot member
      rcases List.mem_cons.mp member with rfl | below
      · exact outer
      · refine reaches_layouts children shown.tail (fun child isChild => ?_)
          slot below
        exact outer.tail ⟨_, shown.head, isChild⟩

theorem reaches_layouts (layouts : List Layout)
    (shown : page.Shows (cellsAll layouts))
    (outer : ∀ slot ∈ layouts.map Layout.slot, page.Reaches slot) :
    ∀ slot ∈ (cellsAll layouts).map (·.1), page.Reaches slot := by
  cases layouts with
  | nil =>
      intro slot member
      cases member
  | cons layout rest =>
      rw [cellsAll] at shown ⊢
      intro slot member
      rw [List.map_append] at member
      rcases List.mem_append.mp member with here | later
      · exact reaches_layout layout shown.left
          (outer _ (List.mem_cons_self ..)) slot here
      · exact reaches_layouts rest shown.right
          (fun other listed => outer other (List.mem_cons_of_mem _ listed))
          slot later

end

theorem reaches_of_occupied (draws : page.Draws layouts) (slot : Nat)
    (occupied : (page.node? slot).isSome) : page.Reaches slot := by
  have member := (draws.holds.occupied_iff slot).mp occupied
  exact reaches_layout (.node root .document layouts)
    draws.holds.shows .refl slot member

theorem occupied_of_reaches (draws : page.Draws layouts) {slot : Nat}
    (reaches : page.Reaches slot) : (page.node? slot).isSome := by
  cases reaches with
  | refl =>
      exact (draws.occupied_iff root).mpr (.inl rfl)
  | tail _ last =>
      exact (draws.occupied_iff slot).mpr
        (.inr ((draws.exists_parent_iff slot).mp ⟨_, last⟩))

theorem wellFormed (draws : page.Draws layouts) : page.WellFormed where
  document := ⟨_, draws.root_lookup⟩
  occupiedOfChild parent child isChild :=
    (draws.occupied_iff child).mpr
      (.inr ((draws.exists_parent_iff child).mp ⟨parent, isChild⟩))
  rootOutermost parent isChild :=
    draws.references_nodup.1
      ((draws.exists_parent_iff root).mp ⟨parent, isChild⟩)
  uniqueParent slot occupied inner := by
    have referred := ((draws.occupied_iff slot).mp occupied).resolve_left inner
    obtain ⟨parent, isChild⟩ := (draws.exists_parent_iff slot).mpr referred
    exact ⟨parent, isChild, fun other isOther =>
      draws.parent_unique isOther isChild⟩
  listedOnce parent node found :=
    (List.nodup_flatMap.mp draws.references_nodup.2).1 (parent, node)
      ((draws.holds.node parent node).mp found)
  reached := draws.reaches_of_occupied
  free := draws.holds.free
  freeOnce := draws.holds.freeDistinct
  indexed := draws.indexed

theorem unbroken (draws : page.Draws layouts) : page.Unbroken where
  reads slot occupied := draws.forestBelow?_isSome occupied
  edits entry member change := by
    obtain ⟨element, below, found⟩ := draws.indexed entry member
    obtain ⟨after, done, -⟩ := draws.editAttributes? found change
    rw [done]
    rfl
  sets entry member name value := by
    obtain ⟨element, below, found⟩ := draws.indexed entry member
    obtain ⟨after, done, -⟩ := draws.setAttributeAt? found name value
    rw [done]
    rfl
  replaces entry member markup := by
    obtain ⟨element, below, found⟩ := draws.indexed entry member
    obtain ⟨after, added, done, -⟩ := draws.replaceBelow? found markup
    rw [done]
    rfl

theorem nodeCount_eq_ncard (draws : page.Draws layouts) :
    page.nodeCount = {slot | page.Reaches slot}.ncard := by
  have same :
      {slot | page.Reaches slot} =
        ((documentCells layouts).map (·.1)).toFinset := by
    ext slot
    rw [Set.mem_ofPred_eq, List.coe_toFinset, Set.mem_ofPred_eq,
      ← draws.holds.occupied_iff]
    exact ⟨draws.occupied_of_reaches, draws.reaches_of_occupied slot⟩
  rw [same, Set.ncard_coe_finset,
    List.toFinset_card_of_nodup draws.holds.distinct, List.length_map,
    draws.holds.nodeCount_eq]

end Draws

end KeymapViewer.Page
