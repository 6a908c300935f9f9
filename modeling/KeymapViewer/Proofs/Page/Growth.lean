import KeymapViewer.Proofs.Page.Layout

/-!
Adding markup to a page. The open elements and their finished children, each
with its slot, are a scaffold; without the slots it is the builder that makes
a forest of the same tokens. One token changes the page, the scaffold and the
builder in step, so a page shows the forest that its markup stands for.
-/

namespace KeymapViewer.Page

open Markup Layout

structure OpenSlot where
  slot : Nat
  element : Element
  /-- The siblings before it, the nearest first. -/
  siblings : List Layout

/-- A builder with the slot of every node. -/
structure Scaffold where
  finished : List Layout
  opened : List OpenSlot

/-- The slot that markup is added to, with what it is. -/
structure Base where
  slot : Nat
  content : Content

namespace Base

def innermost (base : Base) : List OpenSlot → Base
  | [] => base
  | frame :: _ => ⟨frame.slot, .element frame.element⟩

/-- The open slots around the innermost one. -/
def outerSlots (base : Base) : List OpenSlot → List Nat
  | [] => []
  | _ :: outer => (base.innermost outer).slot :: base.outerSlots outer

/-- The cells of the open slots around the innermost one, and below them. -/
def around (base : Base) : List OpenSlot → List Cell
  | [] => []
  | frame :: outer =>
    ((base.innermost outer).slot,
      ⟨(base.innermost outer).content,
        (frame.slot :: frame.siblings.map Layout.slot).reverse⟩) ::
      (cellsAll frame.siblings ++ base.around outer)

end Base

namespace Scaffold

variable {base : Base} {page : Page} {rest : List Cell}

def empty : Scaffold := ⟨[], []⟩

def cells (base : Base) (scaffold : Scaffold) : List Cell :=
  ((base.innermost scaffold.opened).slot,
    ⟨(base.innermost scaffold.opened).content,
      (scaffold.finished.map Layout.slot).reverse⟩) ::
    (cellsAll scaffold.finished ++ base.around scaffold.opened)

def place (base : Base) (scaffold : Scaffold) : Place :=
  ⟨(base.innermost scaffold.opened).slot, base.outerSlots scaffold.opened⟩

def builder (scaffold : Scaffold) : Builder :=
  ⟨scaffold.finished.map tree,
    scaffold.opened.map fun frame =>
      ⟨frame.element, frame.siblings.map tree⟩⟩

def push (scaffold : Scaffold) (layout : Layout) : Scaffold :=
  { scaffold with finished := layout :: scaffold.finished }

def open_ (scaffold : Scaffold) (slot : Nat) (element : Element) : Scaffold :=
  ⟨[], ⟨slot, element, scaffold.finished⟩ :: scaffold.opened⟩

/-- The finished children of the next outer element after one is closed. -/
def close (finished : List Layout) (frame : OpenSlot) : List Layout :=
  .node frame.slot (.element frame.element) finished.reverse ::
    frame.siblings

def closeThrough? (name : String) :
    List Layout → List OpenSlot → Option Scaffold
  | _, [] => none
  | finished, frame :: outer =>
    if sameName frame.element.tag name then
      some ⟨close finished frame, outer⟩
    else closeThrough? name (close finished frame) outer

def closeAll : List Layout → List OpenSlot → List Layout
  | finished, [] => finished.reverse
  | finished, frame :: outer => closeAll (close finished frame) outer

/-! ## Closing elements -/

theorem cellsAll_reverse_perm (layouts : List Layout) :
    (cellsAll layouts.reverse).Perm (cellsAll layouts) := by
  induction layouts with
  | nil =>
      exact .refl _
  | cons layout others inductionHypothesis =>
      rw [List.reverse_cons, cellsAll_append, cellsAll_singleton, cellsAll]
      exact List.perm_append_comm.trans (inductionHypothesis.append_left _)

/-- Closing an element moves no cell. -/
theorem cells_close_perm
    (base : Base) (finished : List Layout) (frame : OpenSlot)
    (outer : List OpenSlot) :
    (cells base ⟨close finished frame, outer⟩).Perm
      (cells base ⟨finished, frame :: outer⟩) := by
  unfold cells
  simp only [close, List.map_cons, Layout.slot, cellsAll, Layout.cells,
    Base.innermost, Base.around, List.map_reverse, List.cons_append,
    List.append_assoc]
  refine (List.Perm.swap _ _ _).trans (.cons _ ?_)
  refine .trans (.cons _ ?_) List.perm_middle.symm
  exact (cellsAll_reverse_perm finished).append_right _

theorem closeThrough?_perm
    (base : Base) {name : String} {finished : List Layout}
    {opened : List OpenSlot} {closed : Scaffold}
    (found : closeThrough? name finished opened = some closed) :
    (closed.cells base).Perm (cells base ⟨finished, opened⟩) := by
  induction opened generalizing finished with
  | nil =>
      cases found
  | cons frame outer inductionHypothesis =>
      have moved := cells_close_perm base finished frame outer
      rw [closeThrough?] at found
      split at found
      · cases found
        exact moved
      · exact (inductionHypothesis found).trans moved

theorem tree_close (finished : List Layout) (frame : OpenSlot) :
    (close finished frame).map tree =
      .node (.element frame.element) (finished.map tree).reverse ::
        frame.siblings.map tree := by
  rw [close, List.map_cons, tree, treeAll_eq_map, List.map_reverse]

theorem builder_closeThrough?
    (name : String) (finished : List Layout) (opened : List OpenSlot) :
    Builder.closeThrough? name (builder ⟨finished, opened⟩).finished
        (builder ⟨finished, opened⟩).opened =
      (closeThrough? name finished opened).map builder := by
  induction opened generalizing finished with
  | nil =>
      rfl
  | cons frame outer inductionHypothesis =>
      have further := inductionHypothesis (close finished frame)
      simp only [builder, List.map_cons, Builder.closeThrough?,
        closeThrough?, ← tree_close] at further ⊢
      split
      · rfl
      · exact further

theorem page_closeThrough?
    (name : String) {finished : List Layout} {opened : List OpenSlot}
    (shown : page.Shows (cells base ⟨finished, opened⟩)) :
    page.closeThrough? name (base.innermost opened).slot
        (base.outerSlots opened) =
      some ((closeThrough? name finished opened).map (place base)) := by
  -- The search on the page goes outwards through the same elements as the one
  -- in the scaffold.
  induction opened generalizing finished with
  | nil =>
      rfl
  | cons frame outer inductionHypothesis =>
      have shownClosed :
          page.Shows (cells base ⟨close finished frame, outer⟩) :=
        fun cell member =>
          shown cell ((cells_close_perm base finished frame outer).subset
            member)
      have further := inductionHypothesis shownClosed
      have current :
          page.node? frame.slot =
            some ⟨.element frame.element,
              (finished.map Layout.slot).reverse⟩ :=
        shown.head
      change (page.node? frame.slot >>= _) = _
      rw [current, closeThrough?]
      by_cases named : sameName frame.element.tag name = true
      · simp [Node.isNamed, named, place]
      · simpa [Node.isNamed, named] using further

theorem closeAll_perm
    (base : Base) (finished : List Layout) (opened : List OpenSlot) :
    ((base.slot, ⟨base.content,
        (closeAll finished opened).map Layout.slot⟩) ::
      cellsAll (closeAll finished opened)).Perm
      (cells base ⟨finished, opened⟩) := by
  induction opened generalizing finished with
  | nil =>
      unfold cells
      simp only [closeAll, Base.innermost, Base.around, List.append_nil,
        List.map_reverse]
      exact (cellsAll_reverse_perm finished).cons _
  | cons frame outer inductionHypothesis =>
      exact (inductionHypothesis _).trans
        (cells_close_perm base finished frame outer)

theorem tree_closeAll (finished : List Layout) (opened : List OpenSlot) :
    treeAll (closeAll finished opened) =
      (builder ⟨finished, opened⟩).finish := by
  induction opened generalizing finished with
  | nil =>
      simp only [closeAll, builder, Builder.finish, Builder.closeAll,
        List.map_nil, treeAll_eq_map, List.map_reverse]
  | cons frame outer inductionHypothesis =>
      have further := inductionHypothesis (close finished frame)
      simp only [builder, Builder.finish, List.map_cons, Builder.closeAll,
        closeAll, ← tree_close] at further ⊢
      exact further

/-! ## Adding nodes -/

/-- A node without children goes below the innermost open slot, where it may
be left open. -/
theorem insert? {scaffold : Scaffold}
    (holds : page.Holds (scaffold.cells base ++ rest)) (added : Content) :
    ∃ after slot,
      page.insert? added (scaffold.place base).current = some (after, slot) ∧
      after.Holds ((scaffold.push (.node slot added [])).cells base ++ rest) ∧
      (∀ element, added = .element element →
        after.Holds ((scaffold.open_ slot element).cells base ++ rest)) ∧
      after.slots.size =
        max page.slots.size ((scaffold.cells base ++ rest).length + 1) := by
  unfold cells at holds ⊢
  obtain ⟨after, slot, inserted, held, size⟩ := Holds.insert? holds added
  refine ⟨after, slot, inserted, held.perm ?_, ?_, size⟩
  · simp only [push, List.map_cons, Layout.slot, List.reverse_cons, cellsAll,
      Layout.cells, List.map_nil, List.nil_append, List.cons_append]
    exact .swap ..
  · rintro element rfl
    refine held.perm ?_
    simp only [open_, Base.innermost, Base.around, cellsAll, List.map_nil,
      List.reverse_nil, List.nil_append, List.reverse_cons, List.cons_append]
    exact .refl _

/-- An addition to a page: it has a result, with the cells and the builder of
a scaffold, and the page has as many slots as were ever needed. -/
def Leads (base : Base) (rest : List Cell) (before : Scaffold) (page : Page)
    (outcome : Option (Page × Place)) (builder : Builder) : Prop :=
  ∃ (after : Page) (scaffold : Scaffold),
    outcome = some (after, scaffold.place base) ∧
    after.Holds (scaffold.cells base ++ rest) ∧
    scaffold.builder = builder ∧
    (before.cells base).length ≤ (scaffold.cells base).length ∧
    after.slots.size =
      max page.slots.size (scaffold.cells base ++ rest).length

theorem length_cells_push
    (base : Base) (scaffold : Scaffold) (slot : Nat) (content : Content) :
    ((scaffold.push (.node slot content [])).cells base).length =
      (scaffold.cells base).length + 1 := by
  simp only [cells, push, cellsAll, Layout.cells, List.length_cons,
    List.length_append, List.map_nil, List.length_nil]
  omega

theorem length_cells_open
    (base : Base) (scaffold : Scaffold) (slot : Nat) (element : Element) :
    ((scaffold.open_ slot element).cells base).length =
      (scaffold.cells base).length + 1 := by
  simp only [cells, open_, Base.around, cellsAll, List.length_cons,
    List.length_append, List.length_nil]
  omega

theorem leads_of_leaf {scaffold : Scaffold}
    (holds : page.Holds (scaffold.cells base ++ rest)) (added : Content) :
    Leads base rest scaffold page
      (do
        let (page, _) ← page.insert? added (scaffold.place base).current
        return (page, scaffold.place base))
      (scaffold.builder.push (.leaf added)) := by
  obtain ⟨after, slot, inserted, held, -, size⟩ := insert? holds added
  have length := length_cells_push base scaffold slot added
  refine ⟨after, scaffold.push (.node slot added []), ?_, held, rfl,
    by omega, ?_⟩
  · rw [inserted]
    rfl
  · rw [size, List.length_append, List.length_append, length]
    congr 1
    omega

theorem leads_of_token {scaffold : Scaffold}
    (holds : page.Holds (scaffold.cells base ++ rest)) (token : Token) :
    Leads base rest scaffold page
      (addToken? token page (scaffold.place base))
      (scaffold.builder.add token) := by
  cases token with
  | startTag name attributes selfClosing =>
      by_cases childless : (selfClosing || isVoid name) = true
      · have leaf := leads_of_leaf holds
          (.element ⟨name, attributes, selfClosing⟩)
        simpa only [addToken?, Builder.add, childless, ↓reduceIte] using leaf
      · obtain ⟨after, slot, inserted, -, held, size⟩ :=
          insert? holds (.element ⟨name, attributes, selfClosing⟩)
        have length := length_cells_open base scaffold slot
          ⟨name, attributes, selfClosing⟩
        refine ⟨after, scaffold.open_ slot ⟨name, attributes, selfClosing⟩,
          ?_, held _ rfl, ?_, by omega, ?_⟩
        · simp only [addToken?, inserted, childless]
          rfl
        · simp only [Builder.add, childless]
          rfl
        · rw [size, List.length_append, List.length_append, length]
          congr 1
          omega
  | endTag name =>
      obtain ⟨finished, opened⟩ := scaffold
      have read := page_closeThrough? name holds.shows.left
      have built := builder_closeThrough? name finished opened
      have fits := holds.length_add_length
      simp only [addToken?, Builder.add]
      change Leads _ _ _ _ (page.closeThrough? name _ _ >>= _) _
      rw [place, read, built]
      cases found : closeThrough? name finished opened with
      | none =>
          exact ⟨page, ⟨finished, opened⟩, rfl, holds, rfl, Nat.le_refl _,
            by omega⟩
      | some closed =>
          have moved := closeThrough?_perm base found
          have length := moved.length_eq
          refine ⟨page, closed, rfl,
            holds.perm (moved.symm.append_right rest), rfl, by omega, ?_⟩
          rw [List.length_append] at fits ⊢
          omega
  | text text =>
      exact leads_of_leaf holds (.text text)
  | comment text =>
      exact leads_of_leaf holds (.comment text)
  | declaration text =>
      exact leads_of_leaf holds (.declaration text)

theorem leads_of_tokens (tokens : List Token) {scaffold : Scaffold}
    (holds : page.Holds (scaffold.cells base ++ rest)) :
    Leads base rest scaffold page
      (addTokens? tokens page (scaffold.place base))
      (tokens.foldl Builder.add scaffold.builder) := by
  induction tokens generalizing page scaffold with
  | nil =>
      have fits := holds.length_add_length
      exact ⟨page, scaffold, rfl, holds, rfl, Nat.le_refl _, by omega⟩
  | cons token later inductionHypothesis =>
      obtain ⟨between, next, added, heldBetween, built, grown, size⟩ :=
        leads_of_token holds token
      obtain ⟨after, last, addedLater, held, builtLast, grownLast,
        sizeLast⟩ := inductionHypothesis heldBetween
      refine ⟨after, last, ?_, held, ?_, by omega, ?_⟩
      · rw [addTokens?, added]
        exact addedLater
      · rw [builtLast, built, List.foldl_cons]
      · rw [sizeLast, size]
        rw [List.length_append, List.length_append]
        omega

end Scaffold

/-- Markup that is added to a childless slot becomes its content, as the
forest that the markup stands for. -/
theorem Holds.appendMarkup? {page : Page} {slot : Nat} {content : Content}
    {rest : List Cell} (holds : page.Holds ((slot, ⟨content, []⟩) :: rest))
    (markup : String) :
    ∃ after layouts, page.appendMarkup? slot markup = some after ∧
      after.Holds ((slot, ⟨content, layouts.map Layout.slot⟩) ::
        (cellsAll layouts ++ rest)) ∧
      treeAll layouts = Forest.parse markup ∧
      after.slots.size =
        max page.slots.size ((cellsAll layouts).length + rest.length + 1) := by
  have bare : page.Holds (Scaffold.empty.cells ⟨slot, content⟩ ++ rest) :=
    holds
  obtain ⟨after, ⟨finished, opened⟩, added, held, built, -, size⟩ :=
    Scaffold.leads_of_tokens (tokenize markup) bare
  have closed := Scaffold.closeAll_perm ⟨slot, content⟩ finished opened
  refine ⟨after, Scaffold.closeAll finished opened, ?_,
    held.perm (closed.symm.append_right rest), ?_, ?_⟩
  · change (addTokens? (tokenize markup) page ⟨slot, []⟩ >>= _) = _
    exact congrArg (· >>= fun outcome => some outcome.1) added
  · rw [Scaffold.tree_closeAll, built]
    rfl
  · have length := closed.length_eq
    rw [List.length_cons] at length
    rw [size, List.length_append, ← length]
    congr 1
    omega

end KeymapViewer.Page
