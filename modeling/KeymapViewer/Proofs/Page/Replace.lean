import KeymapViewer.Proofs.Page.Layout

/-!
Putting something else in place of one node of a layout. The cells of a layout
with distinct slots are those at and below a slot, and others, which stay the
same whatever is put there.
-/

namespace KeymapViewer.Page.Layout

open Markup

mutual

/-- Gives the node in a slot other content, and changes its children. -/
def replace (slot : Nat) (content : Content)
    (change : List Layout → List Layout) : Layout → Layout
  | .node other own below =>
    if other = slot then .node slot content (change below)
    else .node other own (replaceAll slot content change below)

def replaceAll (slot : Nat) (content : Content)
    (change : List Layout → List Layout) : List Layout → List Layout
  | [] => []
  | layout :: rest =>
    layout.replace slot content change ::
      replaceAll slot content change rest

end

section

variable {slot : Nat} {content : Content}
  {change : List Layout → List Layout}

@[simp]
theorem slot_replace (layout : Layout) :
    (layout.replace slot content change).slot = layout.slot := by
  cases layout with
  | node other own below =>
      rw [replace]
      split
      · exact Eq.symm ‹_›
      · rfl

@[simp]
theorem map_slot_replaceAll (layouts : List Layout) :
    (replaceAll slot content change layouts).map Layout.slot =
      layouts.map Layout.slot := by
  induction layouts with
  | nil =>
      rfl
  | cons layout rest inductionHypothesis =>
      rw [replaceAll, List.map_cons, inductionHypothesis, slot_replace,
        List.map_cons]

mutual

theorem replace_of_notMem (layout : Layout)
    (absent : slot ∉ layout.cells.map (·.1)) :
    layout.replace slot content change = layout := by
  cases layout with
  | node other own below =>
      rw [cells, List.map_cons, List.mem_cons, not_or] at absent
      rw [replace, if_neg (Ne.symm absent.1),
        replaceAll_of_notMem below absent.2]

theorem replaceAll_of_notMem (layouts : List Layout)
    (absent : slot ∉ (cellsAll layouts).map (·.1)) :
    replaceAll slot content change layouts = layouts := by
  cases layouts with
  | nil =>
      rfl
  | cons layout rest =>
      rw [cellsAll, List.map_append, List.mem_append, not_or] at absent
      rw [replaceAll, replace_of_notMem layout absent.1,
        replaceAll_of_notMem rest absent.2]

end

end

/-- The cells around a slot: what is there comes with its children, and other
cells are the same for all that could be there. -/
def Splits (slot : Nat)
    (cellsOf : Content → (List Layout → List Layout) → List Cell)
    (now : List Cell) : Prop :=
  ∃ content children outer,
    now.Perm ((slot, ⟨content, children.map Layout.slot⟩) ::
      (cellsAll children ++ outer)) ∧
    ∀ changed change, (cellsOf changed change).Perm
      ((slot, ⟨changed, (change children).map Layout.slot⟩) ::
        (cellsAll (change children) ++ outer))

/-- Cells that come before those around a slot. -/
theorem Splits.cons {slot : Nat}
    {cellsOf : Content → (List Layout → List Layout) → List Cell}
    {now : List Cell}
    (splits : Splits slot cellsOf now) (before : List Cell) :
    Splits slot (fun changed change => before ++ cellsOf changed change)
      (before ++ now) := by
  obtain ⟨content, children, outer, same, changing⟩ := splits
  have moves (added : Cell) (below : List Cell) :
      (before ++ added :: (below ++ outer)).Perm
        (added :: (below ++ (before ++ outer))) := by
    refine List.perm_middle.trans (.cons _ ?_)
    rw [← List.append_assoc, ← List.append_assoc]
    exact List.perm_append_comm.append_right outer
  exact ⟨content, children, before ++ outer,
    (same.append_left before).trans (moves _ _),
    fun changed change =>
      ((changing changed change).append_left before).trans (moves _ _)⟩

/-- Cells that come after those around a slot. -/
theorem Splits.append {slot : Nat}
    {cellsOf : Content → (List Layout → List Layout) → List Cell}
    {now : List Cell}
    (splits : Splits slot cellsOf now) (later : List Cell) :
    Splits slot (fun changed change => cellsOf changed change ++ later)
      (now ++ later) := by
  obtain ⟨content, children, outer, same, changing⟩ := splits
  refine ⟨content, children, outer ++ later, ?_, fun changed change => ?_⟩
  · have moved := same.append_right later
    rwa [List.cons_append, List.append_assoc] at moved
  · have moved := (changing changed change).append_right later
    rwa [List.cons_append, List.append_assoc] at moved

mutual

theorem splits_replace {slot : Nat} (layout : Layout)
    (distinct : (layout.cells.map (·.1)).Nodup)
    (member : slot ∈ layout.cells.map (·.1)) :
    Splits slot
      (fun changed change => (layout.replace slot changed change).cells)
      layout.cells := by
  cases layout with
  | node other own below =>
      rw [cells, List.map_cons] at member distinct
      by_cases same : other = slot
      · subst same
        refine ⟨own, below, [], ?_, fun changed change => ?_⟩
        · rw [cells, List.append_nil]
        · simp only [replace, ↓reduceIte, cells, List.append_nil]
          exact .refl _
      · have memberBelow : slot ∈ (cellsAll below).map (·.1) :=
          (List.mem_cons.mp member).resolve_left (Ne.symm same)
        have splits := splits_replaceAll below
          (List.nodup_cons.mp distinct).2 memberBelow
        have whole := splits.cons [(other, ⟨own, below.map Layout.slot⟩)]
        simpa only [replace, if_neg same, cells, map_slot_replaceAll,
          List.cons_append, List.nil_append] using whole

theorem splits_replaceAll {slot : Nat} (layouts : List Layout)
    (distinct : ((cellsAll layouts).map (·.1)).Nodup)
    (member : slot ∈ (cellsAll layouts).map (·.1)) :
    Splits slot
      (fun changed change => cellsAll (replaceAll slot changed change layouts))
      (cellsAll layouts) := by
  cases layouts with
  | nil =>
      cases member
  | cons layout rest =>
      rw [cellsAll, List.map_append] at member distinct
      obtain ⟨distinctFirst, distinctRest, apart⟩ :=
        List.nodup_append'.mp distinct
      -- The slots are distinct, so only one side of the list changes.
      by_cases first : slot ∈ layout.cells.map (·.1)
      · have whole := (splits_replace layout distinctFirst first).append
          (cellsAll rest)
        have absent : slot ∉ (cellsAll rest).map (·.1) :=
          fun later => apart first later
        simpa only [replaceAll, cellsAll, replaceAll_of_notMem rest absent]
          using whole
      · have later : slot ∈ (cellsAll rest).map (·.1) :=
          (List.mem_append.mp member).resolve_left first
        have whole := (splits_replaceAll rest distinctRest later).cons
          layout.cells
        simpa only [replaceAll, cellsAll, replace_of_notMem layout first]
          using whole

end

end KeymapViewer.Page.Layout
