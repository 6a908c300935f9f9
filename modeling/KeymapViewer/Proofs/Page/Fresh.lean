import KeymapViewer.Proofs.Page.Addressed

/-!
Pages whose index agrees with their document. On such a page an id leads to
the first element that has it, so an edit is known from the document alone:
which element it changes, and what becomes of it.
-/

namespace KeymapViewer.Page

open Markup Layout

namespace Layout

/-- The layout at a position below layouts. -/
def below? (layouts : List Layout) : List Nat → Option Layout
  | [] => none
  | index :: rest => layouts[index]?.bind (·.at? rest)

theorem below?_nextSibling (layout : Layout) (rest : List Layout)
    (position : List Nat) :
    below? (layout :: rest) (nextSibling position) = below? rest position := by
  cases position with
  | nil =>
      rfl
  | cons index position =>
      rfl

mutual

/-- The first cell with an id is that at the first position with it. -/
theorem find?_cells (layout : Layout) (id : String) :
    layout.cells.find? (·.2.id? == some id) =
      ((layout.tree.first? id).bind layout.at?).map cell := by
  obtain ⟨slot, content, children⟩ := layout
  have named : (Node.mk content (children.map Layout.slot)).id? = content.id? :=
    id?_node _
  rw [cells, tree, Tree.first?]
  by_cases here : content.id? = some id
  · rw [if_pos here, List.find?_cons_of_pos (by simp [named, here])]
    rfl
  · rw [if_neg here, List.find?_cons_of_neg (by simp [named, here]),
      find?_cellsAll children id]
    cases found : firstAll? id (treeAll children) with
    | none =>
        rfl
    | some position =>
        cases position with
        | nil =>
            obtain ⟨index, rest, same, -⟩ := exists_first_of_firstAll? _ found
            cases same
        | cons index rest =>
            rfl

theorem find?_cellsAll (layouts : List Layout) (id : String) :
    (cellsAll layouts).find? (·.2.id? == some id) =
      ((firstAll? id (treeAll layouts)).bind (below? layouts)).map cell := by
  cases layouts with
  | nil =>
      rfl
  | cons layout rest =>
      rw [cellsAll, treeAll, firstAll?, List.find?_append,
        find?_cells layout id, find?_cellsAll rest id]
      cases here : layout.tree.first? id with
      | none =>
          simp [Option.bind_map, below?_nextSibling]
      | some position =>
          have has := (Tree.isFirst_of_first? layout.tree here).has
          have there : layout.at? position ≠ none := by
            intro missing
            rw [Tree.idAt?, Tree.contentAt?, subtree?_tree, missing] at has
            cases has
          obtain ⟨found, known⟩ := Option.ne_none_iff_exists'.mp there
          simp [below?, known]

end

end Layout

/-- A page that draws a document, with an index that agrees with it. -/
def IsFresh (page : Page) : Prop :=
  ∃ layouts, page.Draws layouts ∧ page.IndexAgrees layouts

theorem parse_isFresh (html : String) : (parse html).IsFresh := by
  obtain ⟨layouts, -, draws, -⟩ := parse_draws html
  exact ⟨layouts, draws, (parse_isReindexed html).tracks draws⟩

namespace IsFresh

variable {page : Page} {id name : String} {position : List Nat}
  {element : Element}

/-- An id leads to the first element of the document that has it. -/
theorem lookup_ids (fresh : page.IsFresh) (id : String) :
    page.ids.lookup id =
      (page.document.first? id).bind (page.slotAt? root) := by
  obtain ⟨layouts, draws, agrees⟩ := fresh
  have whole := find?_cells (.node root .document layouts) id
  rw [cells, List.find?_cons_of_neg (by simp [Node.id?])] at whole
  rw [(indexAgrees_iff page layouts).mp agrees, bearers, List.head?_map,
    List.head?_filter, whole, draws.document_eq, funext draws.slotAt?_root]
  cases (Layout.node root .document layouts).tree.first? id with
  | none =>
      rfl
  | some position =>
      simp only [Option.bind_some, Option.map_map]
      rfl

/-- The slot of an element that is found by its id. -/
theorem exists_slotOf_first (fresh : page.IsFresh)
    (first : page.document.first? id = some position) :
    ∃ slot, page.slotOf id = .ok slot ∧
      page.slotAt? root position = some slot := by
  have lookup := fresh.lookup_ids id
  obtain ⟨layouts, draws, -⟩ := fresh
  obtain ⟨element, there, -⟩ :=
    Tree.exists_element_of_idAt? (Tree.isFirst_of_first? _ first).has
  rw [draws.contentAt?_document] at there
  obtain ⟨layout, found, -⟩ := Option.map_eq_some_iff.mp there
  have place : page.slotAt? root position = some layout.slot := by
    rw [draws.slotAt?_root, found, Option.map_some]
  rw [first, Option.bind_some, place] at lookup
  exact ⟨layout.slot, (slotOf_eq_ok_iff ..).mpr lookup, place⟩

theorem isSound (fresh : page.IsFresh) : page.IsSound := by
  obtain ⟨layouts, draws, agrees⟩ := fresh
  exact agrees.isSound draws

/-- The position that an id addresses is the first one that has it. -/
theorem addresses_iff (fresh : page.IsFresh) (id : String)
    (position : List Nat) :
    page.Addresses id position ↔ page.document.first? id = some position := by
  constructor
  · rintro ⟨slot, leads, placed⟩
    have lookup := fresh.lookup_ids id
    rw [(slotOf_eq_ok_iff ..).mp leads] at lookup
    obtain ⟨place, first, placedFirst⟩ := Option.bind_eq_some_iff.mp lookup.symm
    obtain ⟨layouts, draws, -⟩ := fresh
    rw [first, draws.slotAt?_root_unique placedFirst placed]
  · intro first
    exact fresh.exists_slotOf_first first

theorem contains_eq (fresh : page.IsFresh) (id : String) :
    page.contains id = (page.document.first? id).isSome := by
  cases first : page.document.first? id with
  | none =>
      rw [contains, fresh.lookup_ids, first]
      rfl
  | some position =>
      obtain ⟨slot, leads, -⟩ := fresh.exists_slotOf_first first
      rw [contains, (slotOf_eq_ok_iff ..).mp leads]
      rfl

theorem find_eq (fresh : page.IsFresh)
    (first : page.document.first? id = some position)
    (there : page.document.contentAt? position = some (.element element)) :
    page.find id = .ok element := by
  have addresses := (fresh.addresses_iff id position).mpr first
  exact (fresh.isSound.find_eq_ok_iff addresses).mpr there

theorem attribute?_eq (fresh : page.IsFresh)
    (first : page.document.first? id = some position)
    (there : page.document.contentAt? position = some (.element element))
    (name : String) :
    page.attribute? id name = .ok (element.attribute? name) := by
  rw [attribute?, fresh.find_eq first there]
  rfl

/-! ## Edits -/

/-- A change that keeps ids leaves the index in agreement with the
document. -/
theorem of_sameIds (fresh : page.IsFresh) {after : Page}
    (same : page.SameIds after) (drawn : ∃ layouts, after.Draws layouts) :
    after.IsFresh := by
  obtain ⟨layouts, draws, agrees⟩ := fresh
  obtain ⟨layoutsAfter, drawsAfter⟩ := drawn
  exact ⟨layoutsAfter, drawsAfter,
    same.indexAgrees draws drawsAfter agrees⟩

theorem setAttribute (fresh : page.IsFresh)
    (first : page.document.first? id = some position)
    (there : page.document.contentAt? position = some (.element element))
    (other : name ≠ "id") (value : String) :
    ∃ after, page.setAttribute id name value = .ok after ∧
      after.IsFresh ∧
      ∀ place, after.document.contentAt? place =
        if place = position then
          some (.element { element with
            attributes := withAttribute name value element.attributes })
        else page.document.contentAt? place := by
  have addresses := (fresh.addresses_iff id position).mpr first
  obtain ⟨after, done, soundAfter, -, -, contents⟩ :=
    fresh.isSound.exists_setAttribute addresses there other value
  exact ⟨after, done,
    fresh.of_sameIds (sameIds_setAttribute other done) soundAfter.draws,
    contents⟩

/-- Markup that is put into an element takes the place of what is below. -/
theorem setInnerHtml (fresh : page.IsFresh)
    (first : page.document.first? id = some position) (markup : String) :
    ∃ after slot, page.setInnerHtml id markup = .ok after ∧
      after.IsFresh ∧ page.Substitutes after slot position markup := by
  obtain ⟨slot, leads, placed⟩ := fresh.exists_slotOf_first first
  have known : page.contains id = true := by
    rw [fresh.contains_eq, first]
    rfl
  obtain ⟨after, done⟩ := exists_setInnerHtml known markup
  obtain ⟨layouts, draws, -⟩ := fresh
  obtain ⟨layoutsAfter, drawsAfter⟩ := (follows_setInnerHtml draws done).draws
  exact ⟨after, slot, done,
    ⟨layoutsAfter, drawsAfter,
      (isReindexed_setInnerHtml draws done).tracks drawsAfter⟩,
    substitutes_setInnerHtml draws leads placed done⟩

end IsFresh

end KeymapViewer.Page
