import KeymapViewer.Page.Basic
import KeymapViewer.Proofs.Page.Growth
import KeymapViewer.Proofs.Page.Replace

/-!
Pages that draw a document: their slots hold the document and the layouts at
its top, and their index leads to elements. Reading markup makes such a page,
and changing an element of such a page makes another one.
-/

namespace KeymapViewer.Page

open Markup Layout

def IsElement (page : Page) (slot : Nat) : Prop :=
  ∃ element children, page.node? slot = some ⟨.element element, children⟩

/-- The cells of a document with the layouts at its top. -/
def documentCells (layouts : List Layout) : List Cell :=
  (root, ⟨.document, layouts.map Layout.slot⟩) :: cellsAll layouts

structure Draws (page : Page) (layouts : List Layout) : Prop where
  holds : page.Holds (documentCells layouts)
  indexed : ∀ entry ∈ page.ids, page.IsElement entry.2

/-! ## The index -/

/-- An index is made of the entries it is built from. -/
theorem mem_foldl_indexElement
    {entries index : List (String × Nat)} {entry : String × Nat}
    (member : entry ∈ entries.foldl indexElement index) :
    entry ∈ index ∨ entry ∈ entries := by
  induction entries generalizing index with
  | nil =>
      exact .inl member
  | cons first rest inductionHypothesis =>
      rcases inductionHypothesis member with known | later
      · unfold indexElement at known
        split at known
        · exact .inl known
        · rcases List.mem_append.mp known with earlier | same
          · exact .inl earlier
          · rw [List.mem_singleton] at same
            exact .inr (same ▸ List.mem_cons_self ..)
      · exact .inr (List.mem_cons_of_mem _ later)

theorem isElement_of_idOf? {page : Page} {slot : Nat} {id : String}
    (found : page.idOf? slot = some id) : page.IsElement slot := by
  unfold idOf? at found
  split at found
  · exact ⟨_, _, ‹_›⟩
  · cases found

theorem walk?_root {page : Page} {layouts : List Layout}
    (holds : page.Holds (documentCells layouts)) :
    page.walk? page.slots.size [root] =
      some ((documentCells layouts).map (·.1)) := by
  have fits := holds.length_add_length
  have whole :
      documentCells layouts =
        cellsAll [.node root .document layouts] := by
    rw [cellsAll_singleton, cells, documentCells]
  rw [whole] at holds fits ⊢
  exact walk?_eq [.node root .document layouts] (by omega) holds.shows

/-- Building the index anew changes nothing else. -/
theorem Holds.reindex? {page : Page} {layouts : List Layout}
    (holds : page.Holds (documentCells layouts)) :
    ∃ ids, page.reindex? = some { page with ids } ∧
      Draws { page with ids } layouts := by
  refine ⟨_, by simp [Page.reindex?, walk?_root holds]; rfl, ?_⟩
  refine ⟨⟨holds.node, holds.distinct, holds.free, holds.freeDistinct⟩,
    fun entry member => ?_⟩
  rcases mem_foldl_indexElement member with none_ | listed
  · cases none_
  · obtain ⟨slot, -, found⟩ := List.mem_filterMap.mp listed
    obtain ⟨id, named, rfl⟩ := Option.map_eq_some_iff.mp found
    exact isElement_of_idOf? named

/-! ## Reading markup -/

theorem holds_empty : empty.Holds (documentCells []) := by
  have reads (slot : Nat) :
      empty.node? slot =
        if slot = root then some ⟨.document, []⟩ else none := by
    cases slot with
    | zero =>
        rfl
    | succ below =>
        rfl
  refine ⟨fun slot node => ?_, List.nodup_singleton _, fun slot => ?_,
    List.nodup_nil⟩
  · rw [reads, documentCells, List.mem_cons]
    by_cases same : slot = root
    · simp [same, eq_comm, cellsAll]
    · simp [same, cellsAll]
  · change slot ∈ [] ↔ slot < 1 ∧ _
    rw [reads]
    by_cases same : slot = root
    · simp [same]
    · have beyond : ¬ slot < 1 := fun below =>
        same (Nat.lt_one_iff.mp below)
      simp [beyond]

/-- Reading markup from scratch never fails. -/
theorem parse_draws (html : String) :
    ∃ layouts, parse? html = some (parse html) ∧
      (parse html).Draws layouts ∧ treeAll layouts = Forest.parse html ∧
      (parse html).slots.size = (parse html).nodeCount := by
  obtain ⟨filled, layouts, appended, held, trees, size⟩ :=
    holds_empty.appendMarkup? html
  rw [cellsAll, List.append_nil] at held
  obtain ⟨ids, indexed, draws⟩ := Holds.reindex? held
  have read : parse? html = some { filled with ids } := by
    simp [parse?, appended, indexed]
  have total : parse html = { filled with ids } := by
    rw [parse, read, Option.getD_some]
  refine ⟨layouts, by rw [total, read], total ▸ draws, trees, ?_⟩
  rw [total, draws.holds.nodeCount_eq]
  change filled.slots.size = _
  rw [size, documentCells, List.length_cons]
  exact max_eq_right (Nat.le_add_left 1 _)

/-- A slot with its node shows what is below it. -/
theorem Holds.forestBelow? {page : Page} {slot : Nat} {content : Content}
    {children : List Layout} {outer : List Cell}
    (holds : page.Holds ((slot, ⟨content, children.map Layout.slot⟩) ::
      (cellsAll children ++ outer))) :
    page.forestBelow? slot = some (treeAll children) := by
  have fits := holds.length_add_length
  rw [List.length_cons, List.length_append] at fits
  have deep : (cellsAll children).length ≤ page.slots.size := by
    omega
  have below := mapM_treeAt?_eq children deep holds.shows.tail.left
  simp [Page.forestBelow?, holds.lookup, below]

namespace Draws

variable {page : Page} {layouts : List Layout} {slot : Nat}

/-! ## Views -/

theorem root_lookup (draws : page.Draws layouts) :
    page.node? root = some ⟨.document, layouts.map Layout.slot⟩ :=
  Holds.lookup draws.holds

/-- What is at and below a slot, and what would be there after a change. -/
theorem split (draws : page.Draws layouts) {node : Node}
    (found : page.node? slot = some node) (inner : slot ≠ root) :
    ∃ children outer, node.children = children.map Layout.slot ∧
      (documentCells layouts).Perm ((slot, node) ::
        (cellsAll children ++ outer)) ∧
      ∀ changed change,
        (documentCells (replaceAll slot changed change layouts)).Perm
          ((slot, ⟨changed, (change children).map Layout.slot⟩) ::
            (cellsAll (change children) ++ outer)) := by
  have listed : (slot, node) ∈ documentCells layouts :=
    (draws.holds.node slot node).mp found
  have below : (slot, node) ∈ cellsAll layouts :=
    (List.mem_cons.mp listed).resolve_left
      fun same => inner (congrArg Prod.fst same)
  obtain ⟨content, children, outer, same, changing⟩ :=
    (splits_replaceAll layouts draws.holds.distinct_cons.2
      (List.mem_map_of_mem below)).cons [(root, ⟨.document,
        layouts.map Layout.slot⟩)]
  have there := (draws.holds.perm same).lookup
  rw [found] at there
  injection there with known
  refine ⟨children, outer, by rw [known], by rw [known]; exact same,
    fun changed change => ?_⟩
  rw [documentCells, map_slot_replaceAll]
  exact changing changed change

theorem forestBelow?_root (draws : page.Draws layouts) :
    page.forestBelow? root = some (treeAll layouts) := by
  have holds := draws.holds
  rw [documentCells, ← List.append_nil (cellsAll layouts)] at holds
  exact holds.forestBelow?

theorem forest_eq (draws : page.Draws layouts) :
    page.forest = treeAll layouts := by
  rw [forest, forestBelow, draws.forestBelow?_root, Option.getD_some]

theorem forestBelow?_isSome (draws : page.Draws layouts)
    (occupied : (page.node? slot).isSome) :
    (page.forestBelow? slot).isSome := by
  by_cases outermost : slot = root
  · rw [outermost, draws.forestBelow?_root]
    rfl
  · obtain ⟨⟨content, below⟩, found⟩ := Option.isSome_iff_exists.mp occupied
    obtain ⟨children, outer, rfl, same, -⟩ := draws.split found outermost
    rw [(draws.holds.perm same).forestBelow?]
    rfl

/-! ## Changing elements -/

theorem ne_root (draws : page.Draws layouts) {element : Element}
    {below : List Nat}
    (found : page.node? slot = some ⟨.element element, below⟩) :
    slot ≠ root := by
  rintro rfl
  rw [draws.root_lookup] at found
  cases found

/-- A change of attributes is made in place. -/
theorem editAttributes? (draws : page.Draws layouts) {element : Element}
    {below : List Nat}
    (found : page.node? slot = some ⟨.element element, below⟩)
    (edit : List Attribute → List Attribute) :
    ∃ after, page.editAttributes? slot edit = some after ∧
      after.Draws (replaceAll slot
        (.element { element with attributes := edit element.attributes })
        id layouts) ∧
      after.slots.size = page.slots.size := by
  obtain ⟨children, outer, same, cells, changing⟩ :=
    draws.split found (draws.ne_root found)
  simp only at same
  subst same
  have edited := (draws.holds.perm cells).setNode
    ⟨.element { element with attributes := edit element.attributes },
      children.map Layout.slot⟩
  refine ⟨_, by simp only [Page.editAttributes?, found],
    ⟨edited.perm (changing _ id).symm, fun entry member => ?_⟩,
    size_setNode ..⟩
  obtain ⟨other, others, indexed⟩ := draws.indexed entry member
  unfold IsElement
  rw [node?_setNode (lt_size_of_node? found)]
  by_cases here : entry.2 = slot
  · exact ⟨_, _, if_pos here⟩
  · exact ⟨other, others, by rw [if_neg here, indexed]⟩

theorem setAttributeAt? (draws : page.Draws layouts) {element : Element}
    {below : List Nat}
    (found : page.node? slot = some ⟨.element element, below⟩)
    (name value : String) :
    ∃ after, page.setAttributeAt? slot name value = some after ∧
      after.Draws (replaceAll slot
        (.element { element with
          attributes := withAttribute name value element.attributes })
        id layouts) ∧
      after.slots.size = page.slots.size := by
  obtain ⟨edited, done, drawn, size⟩ :=
    draws.editAttributes? found (withAttribute name value)
  by_cases isId : name = "id"
  · obtain ⟨ids, indexed, drawnIndexed⟩ := drawn.holds.reindex?
    refine ⟨_, ?_, drawnIndexed, size⟩
    rw [Page.setAttributeAt?, done]
    simp [isId, indexed]
  · refine ⟨edited, ?_, drawn, size⟩
    simp [Page.setAttributeAt?, done, isId]

/-- Markup takes the place of all that is below an element. -/
theorem replaceBelow? (draws : page.Draws layouts) {element : Element}
    {below : List Nat}
    (found : page.node? slot = some ⟨.element element, below⟩)
    (markup : String) :
    ∃ after added, page.replaceBelow? slot markup = some after ∧
      after.Draws (replaceAll slot (.element element) (fun _ => added)
        layouts) ∧
      treeAll added = Forest.parse markup ∧
      after.slots.size = max page.slots.size after.nodeCount := by
  obtain ⟨children, outer, same, cells, changing⟩ :=
    draws.split found (draws.ne_root found)
  simp only at same
  subst same
  obtain ⟨cleared, clearing, heldCleared, sizeCleared⟩ :=
    (draws.holds.perm cells).clearBelow?
  obtain ⟨filled, added, appended, held, trees, size⟩ :=
    heldCleared.appendMarkup? markup
  obtain ⟨ids, indexed, drawn⟩ :=
    Holds.reindex? (held.perm (changing _ fun _ => added).symm)
  refine ⟨_, added, ?_, drawn, trees, ?_⟩
  · simp [Page.replaceBelow?, clearing, appended, indexed]
  · rw [drawn.holds.nodeCount_eq, (changing _ _).length_eq]
    change filled.slots.size = _
    rw [size, sizeCleared, List.length_cons, List.length_append]

end Draws

end KeymapViewer.Page
