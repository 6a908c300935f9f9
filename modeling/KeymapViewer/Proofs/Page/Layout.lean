import KeymapViewer.Proofs.Page.Cells

/-!
Documents with the slot of every node. A page that holds the cells of a layout
shows its tree, walks over its slots in document order, and can be cleared
below each of its slots.
-/

namespace KeymapViewer.Page

open Markup

/-- A tree with the slot of every node. -/
inductive Layout where
  | node (slot : Nat) (content : Content) (children : List Layout)
  deriving Repr

namespace Layout

def slot : Layout → Nat
  | .node slot _ _ => slot

mutual

/-- The cells of a layout in document order. -/
def cells : Layout → List Cell
  | .node slot content children =>
    (slot, ⟨content, children.map Layout.slot⟩) :: cellsAll children

def cellsAll : List Layout → List Cell
  | [] => []
  | layout :: rest => layout.cells ++ cellsAll rest

end

mutual

def tree : Layout → Tree
  | .node _ content children => .node content (treeAll children)

def treeAll : List Layout → List Tree
  | [] => []
  | layout :: rest => layout.tree :: treeAll rest

end

theorem treeAll_eq_map (layouts : List Layout) :
    treeAll layouts = layouts.map tree := by
  induction layouts with
  | nil =>
      rfl
  | cons layout rest inductionHypothesis =>
      rw [treeAll, inductionHypothesis, List.map_cons]

@[simp]
theorem cellsAll_append (first second : List Layout) :
    cellsAll (first ++ second) = cellsAll first ++ cellsAll second := by
  induction first with
  | nil =>
      rfl
  | cons layout rest inductionHypothesis =>
      rw [List.cons_append, cellsAll, inductionHypothesis, cellsAll,
        List.append_assoc]

@[simp]
theorem cellsAll_singleton (layout : Layout) :
    cellsAll [layout] = layout.cells := by
  rw [cellsAll, cellsAll, List.append_nil]

theorem length_cells_pos (layout : Layout) : 0 < layout.cells.length := by
  cases layout with
  | node slot content children =>
      rw [cells, List.length_cons]
      exact Nat.succ_pos _

end Layout

open Layout

/-- Each of the cells is a slot of the page with its node. -/
def Shows (page : Page) (cells : List Cell) : Prop :=
  ∀ cell ∈ cells, page.node? cell.1 = some cell.2

namespace Shows

variable {page : Page} {first second : List Cell}

theorem left (shown : page.Shows (first ++ second)) : page.Shows first :=
  fun cell member => shown cell (List.mem_append_left _ member)

theorem right (shown : page.Shows (first ++ second)) : page.Shows second :=
  fun cell member => shown cell (List.mem_append_right _ member)

theorem head {slot : Nat} {node : Node}
    (shown : page.Shows ((slot, node) :: second)) :
    page.node? slot = some node :=
  shown (slot, node) (List.mem_cons_self ..)

theorem tail {cell : Cell} (shown : page.Shows (cell :: second)) :
    page.Shows second :=
  fun other member => shown other (List.mem_cons_of_mem _ member)

end Shows

theorem Holds.shows {page : Page} {cells : List Cell}
    (holds : page.Holds cells) : page.Shows cells :=
  fun cell member => (holds.node cell.1 cell.2).mpr member

/-! ## Views -/

section Views

variable {page : Page}

mutual

theorem treeAt?_eq (layout : Layout) {depth : Nat}
    (deep : layout.cells.length ≤ depth)
    (shown : page.Shows layout.cells) :
    page.treeAt? depth layout.slot = some layout.tree := by
  cases layout with
  | node slot content children =>
      rw [cells, List.length_cons] at deep
      obtain ⟨levels, rfl⟩ : ∃ levels, depth = levels + 1 :=
        ⟨depth - 1, by omega⟩
      rw [cells] at shown
      have deepBelow : (cellsAll children).length ≤ levels := by
        omega
      have below := mapM_treeAt?_eq children deepBelow shown.tail
      simp [treeAt?, Layout.slot, shown.head, below, tree]

theorem mapM_treeAt?_eq (layouts : List Layout) {depth : Nat}
    (deep : (cellsAll layouts).length ≤ depth)
    (shown : page.Shows (cellsAll layouts)) :
    (layouts.map Layout.slot).mapM (page.treeAt? depth) =
      some (treeAll layouts) := by
  cases layouts with
  | nil =>
      rfl
  | cons layout rest =>
      rw [cellsAll, List.length_append] at deep
      rw [cellsAll] at shown
      have deepFirst : layout.cells.length ≤ depth := by
        omega
      have deepOthers : (cellsAll rest).length ≤ depth := by
        omega
      have first := treeAt?_eq layout deepFirst shown.left
      have others := mapM_treeAt?_eq rest deepOthers shown.right
      simp [first, others, treeAll]

end

theorem walk?_eq (layouts : List Layout) {steps : Nat}
    (long : (cellsAll layouts).length ≤ steps)
    (shown : page.Shows (cellsAll layouts)) :
    page.walk? steps (layouts.map Layout.slot) =
      some ((cellsAll layouts).map (·.1)) := by
  induction steps generalizing layouts with
  | zero =>
      cases layouts with
      | nil =>
          rfl
      | cons layout rest =>
          have := length_cells_pos layout
          rw [cellsAll, List.length_append] at long
          omega
  | succ steps inductionHypothesis =>
      cases layouts with
      | nil =>
          rfl
      | cons layout rest =>
          cases layout with
          | node slot content children =>
              rw [cellsAll, cells, List.cons_append] at long shown
              rw [← cellsAll_append] at long shown
              -- The children of a slot come before what was pending.
              have further := inductionHypothesis (children ++ rest)
                (Nat.le_of_succ_le_succ long) shown.tail
              rw [List.map_append] at further
              simp [walk?, Layout.slot, shown.head, further, cellsAll,
                cells]

end Views

/-! ## Clearing -/

namespace Holds

variable {cells rest : List Cell}

/-- Children are vacated one after another, each with all that is below. -/
private theorem removeAll_of_removeEach {depth : Nat}
    (removeEach : ∀ (layout : Layout) (page : Page) (rest : List Cell),
      layout.cells.length ≤ depth → page.Holds (layout.cells ++ rest) →
        ∃ after, removeSubtree? depth page layout.slot = some after ∧
          after.Holds rest ∧ after.slots.size = page.slots.size)
    (layouts : List Layout) (page : Page)
    (deep : (cellsAll layouts).length ≤ depth)
    (holds : page.Holds (cellsAll layouts ++ rest)) :
    ∃ after,
      (layouts.map Layout.slot).foldlM (removeSubtree? depth) page =
        some after ∧
      after.Holds rest ∧ after.slots.size = page.slots.size := by
  induction layouts generalizing page with
  | nil =>
      exact ⟨page, rfl, holds, rfl⟩
  | cons layout others inductionHypothesis =>
      rw [cellsAll, List.length_append] at deep
      rw [cellsAll, List.append_assoc] at holds
      obtain ⟨between, removed, heldBetween, sizeBetween⟩ :=
        removeEach layout page _ (by omega) holds
      obtain ⟨after, removedOthers, held, size⟩ :=
        inductionHypothesis between (by omega) heldBetween
      refine ⟨after, ?_, held, size.trans sizeBetween⟩
      rw [List.map_cons, List.foldlM_cons, removed]
      exact removedOthers

theorem removeSubtree? (depth : Nat) (layout : Layout) (page : Page)
    (rest : List Cell) (deep : layout.cells.length ≤ depth)
    (holds : page.Holds (layout.cells ++ rest)) :
    ∃ after, Page.removeSubtree? depth page layout.slot = some after ∧
      after.Holds rest ∧ after.slots.size = page.slots.size := by
  induction depth generalizing layout page rest with
  | zero =>
      have := length_cells_pos layout
      omega
  | succ depth inductionHypothesis =>
      cases layout with
      | node slot content children =>
          rw [Layout.cells, List.length_cons] at deep
          rw [Layout.cells, List.cons_append] at holds
          -- The children are taken off their node before they are vacated.
          have taken := holds.setNode ⟨content, []⟩
          obtain ⟨cleared, removed, heldCleared, size⟩ :=
            removeAll_of_removeEach inductionHypothesis children _
              (Nat.le_of_succ_le_succ deep)
              (taken.perm List.perm_middle.symm)
          refine ⟨cleared.vacate slot, ?_, heldCleared.vacate, ?_⟩
          · simp [Page.removeSubtree?, Layout.slot, holds.lookup, removed]
          · rw [size_vacate, size, size_setNode]

/-- Clearing a slot leaves its own node, without children. -/
theorem clearBelow? {page : Page} {slot : Nat} {content : Content}
    {layouts : List Layout}
    (holds : page.Holds ((slot, ⟨content, layouts.map Layout.slot⟩) ::
      (cellsAll layouts ++ rest))) :
    ∃ after, page.clearBelow? slot = some after ∧
      after.Holds ((slot, ⟨content, []⟩) :: rest) ∧
      after.slots.size = page.slots.size := by
  have fits := holds.length_add_length
  rw [List.length_cons, List.length_append] at fits
  have taken := holds.setNode ⟨content, []⟩
  obtain ⟨after, removed, held, size⟩ :=
    removeAll_of_removeEach
      (Holds.removeSubtree? page.slots.size) layouts _
      (by omega) (taken.perm List.perm_middle.symm)
  refine ⟨after, ?_, held, ?_⟩
  · simp [Page.clearBelow?, holds.lookup, removed]
  · rw [size, size_setNode]

end Holds

end KeymapViewer.Page
