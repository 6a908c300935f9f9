import KeymapViewer.Proofs.Markup.Position
import KeymapViewer.Proofs.Page.Index

/-!
Slots and positions. Every slot of a document has one position in its tree,
and what is put into a slot is put at that position; so new content of an
element takes the place of the trees below it, and of nothing else.
-/

namespace KeymapViewer.Page

open Markup Layout

namespace Layout

def content : Layout → Content
  | .node _ content _ => content

def children : Layout → List Layout
  | .node _ _ children => children

/-- The layout at a position. -/
def at? : Layout → List Nat → Option Layout
  | layout, [] => some layout
  | .node _ _ children, index :: rest => children[index]?.bind (·.at? rest)

@[simp]
theorem at?_nil (layout : Layout) : layout.at? [] = some layout := by
  cases layout with
  | node slot content children =>
      rfl

theorem content_tree (layout : Layout) :
    layout.tree.content = layout.content := by
  cases layout with
  | node slot content children =>
      rfl

/-- The tree at a position is that of the layout there. -/
theorem subtree?_tree (layout : Layout) (position : List Nat) :
    layout.tree.subtree? position = (layout.at? position).map tree := by
  induction position generalizing layout with
  | nil =>
      rw [Tree.subtree?_nil, at?_nil, Option.map_some]
  | cons index rest inductionHypothesis =>
      obtain ⟨slot, content, children⟩ := layout
      simp only [tree, Tree.subtree?, at?, treeAll_eq_map, List.getElem?_map]
      cases children[index]? with
      | none =>
          rfl
      | some child =>
          exact inductionHypothesis child

/-- The node of a layout, as its slot has it. -/
def cell (layout : Layout) : Cell :=
  (layout.slot, ⟨layout.content, layout.children.map Layout.slot⟩)

theorem cellsAll_eq_flatMap (layouts : List Layout) :
    cellsAll layouts = layouts.flatMap cells := by
  induction layouts with
  | nil =>
      rfl
  | cons layout rest inductionHypothesis =>
      rw [cellsAll, inductionHypothesis, List.flatMap_cons]

theorem replaceAll_eq_map (slot : Nat) (content : Content)
    (change : List Layout → List Layout) (layouts : List Layout) :
    replaceAll slot content change layouts =
      layouts.map (·.replace slot content change) := by
  induction layouts with
  | nil =>
      rfl
  | cons layout rest inductionHypothesis =>
      rw [replaceAll, inductionHypothesis, List.map_cons]

mutual

/-- Every cell of a layout has a position. -/
theorem exists_at?_of_mem_cells (layout : Layout) {item : Cell}
    (member : item ∈ layout.cells) :
    ∃ position found, layout.at? position = some found ∧
      found.cell = item := by
  cases layout with
  | node slot content children =>
      rw [cells, List.mem_cons] at member
      rcases member with rfl | below
      · exact ⟨[], .node slot content children, at?_nil _, rfl⟩
      · obtain ⟨index, child, position, found, here, there, same⟩ :=
          exists_at?_of_mem_cellsAll children below
        exact ⟨index :: position, found, by simp [at?, here, there], same⟩

theorem exists_at?_of_mem_cellsAll (layouts : List Layout) {item : Cell}
    (member : item ∈ cellsAll layouts) :
    ∃ (index : Nat) (child : Layout) (position : List Nat) (found : Layout),
      layouts[index]? = some child ∧ child.at? position = some found ∧
        found.cell = item := by
  cases layouts with
  | nil =>
      cases member
  | cons layout rest =>
      rw [cellsAll, List.mem_append] at member
      rcases member with first | later
      · obtain ⟨position, found, there, same⟩ :=
          exists_at?_of_mem_cells layout first
        exact ⟨0, layout, position, found, rfl, there, same⟩
      · obtain ⟨index, child, position, found, here, there, same⟩ :=
          exists_at?_of_mem_cellsAll rest later
        exact ⟨index + 1, child, position, found, here, there, same⟩

end

/-- A layout has the cells of the layouts below it. -/
theorem cells_sublist_of_at? {layout found : Layout} {position : List Nat}
    (there : layout.at? position = some found) :
    found.cells.Sublist layout.cells := by
  induction position generalizing layout with
  | nil =>
      rw [at?_nil, Option.some.injEq] at there
      rw [there]
  | cons index rest inductionHypothesis =>
      obtain ⟨slot, content, children⟩ := layout
      obtain ⟨child, here, below⟩ := Option.bind_eq_some_iff.mp there
      rw [cells, cellsAll_eq_flatMap, List.flatMap_def]
      refine (inductionHypothesis below).trans (.cons _ ?_)
      exact List.sublist_flatten_of_mem
        (List.mem_map_of_mem (List.mem_of_getElem? here))

theorem cells_eq_cons (layout : Layout) :
    layout.cells = layout.cell :: cellsAll layout.children := by
  cases layout with
  | node slot content children =>
      rfl

theorem cell_mem_of_at? {layout found : Layout} {position : List Nat}
    (there : layout.at? position = some found) :
    found.cell ∈ layout.cells :=
  (cells_sublist_of_at? there).subset
    (found.cells_eq_cons ▸ List.mem_cons_self ..)

/-- The slots of two children of a node are different. -/
theorem slot_notMem_of_ne {children : List Layout} {first second : Nat}
    (distinct : ((cellsAll children).map (·.1)).Nodup)
    (differs : first ≠ second) {child other : Layout}
    (here : children[first]? = some child)
    (there : children[second]? = some other) {slot : Nat}
    (member : slot ∈ child.cells.map (·.1)) :
    slot ∉ other.cells.map (·.1) := by
  rw [cellsAll_eq_flatMap, List.map_flatMap, List.nodup_flatMap] at distinct
  have apart := List.pairwise_iff_getElem.mp distinct.2
  obtain ⟨smallFirst, rfl⟩ := List.getElem?_eq_some_iff.mp here
  obtain ⟨smallSecond, rfl⟩ := List.getElem?_eq_some_iff.mp there
  rcases Nat.lt_or_gt_of_ne differs with before | after
  · exact apart first second smallFirst smallSecond before member
  · exact fun memberOther =>
      apart second first smallSecond smallFirst after memberOther member

/-- A child has distinct slots, and its parent has none of them. -/
theorem distinct_child {slot : Nat} {content : Content}
    {children : List Layout} {child : Layout} (member : child ∈ children)
    (distinct : ((node slot content children).cells.map (·.1)).Nodup) :
    slot ∉ child.cells.map (·.1) ∧ (child.cells.map (·.1)).Nodup := by
  rw [cells, List.map_cons, List.nodup_cons, cellsAll_eq_flatMap,
    List.map_flatMap] at distinct
  obtain ⟨fresh, distinctBelow⟩ := distinct
  exact ⟨fun inside => fresh (List.mem_flatMap.mpr ⟨child, member, inside⟩),
    (List.nodup_flatMap.mp distinctBelow).1 child member⟩

/-- With distinct slots, what is put into a slot is put at its position. -/
theorem tree_replace {layout found : Layout} {position : List Nat}
    (distinct : (layout.cells.map (·.1)).Nodup)
    (there : layout.at? position = some found)
    (content : Content) (change : List Layout → List Layout) :
    (layout.replace found.slot content change).tree =
      layout.tree.changeAt
        (fun _ => .node content (treeAll (change found.children)))
        position := by
  induction position generalizing layout with
  | nil =>
      rw [at?_nil, Option.some.injEq] at there
      subst there
      obtain ⟨slot, own, children⟩ := layout
      simp [replace, Layout.slot, tree, Layout.children]
  | cons index rest inductionHypothesis =>
      obtain ⟨slot, own, children⟩ := layout
      obtain ⟨child, here, below⟩ := Option.bind_eq_some_iff.mp there
      obtain ⟨fresh, distinctChild⟩ :=
        distinct_child (List.mem_of_getElem? here) distinct
      have memberChild : found.slot ∈ child.cells.map (·.1) :=
        List.mem_map_of_mem (cell_mem_of_at? below)
      have differs : slot ≠ found.slot := fun same =>
        fresh (same ▸ memberChild)
      rw [cells, List.map_cons, List.nodup_cons] at distinct
      rw [replace, if_neg differs, tree, tree, Tree.changeAt, treeAll_eq_map,
        treeAll_eq_map, replaceAll_eq_map, List.map_map]
      congr 1
      refine List.ext_getElem? fun place => ?_
      rw [List.getElem?_map]
      by_cases same : index = place
      · subst same
        rw [List.getElem?_modify_eq, List.getElem?_map, here]
        exact congrArg some (inductionHypothesis distinctChild below)
      · rw [List.getElem?_modify_ne _ _ same, List.getElem?_map]
        cases there : children[place]? with
        | none =>
            rfl
        | some other =>
            have absent :=
              slot_notMem_of_ne distinct.2 same here there memberChild
            exact congrArg some
              (congrArg tree (replace_of_notMem other absent))

end Layout

/-! ## Pages -/

/-- The document as a tree with the document at its root. -/
def document (page : Page) : Tree := .node .document page.forest

theorem forest_parse (html : String) :
    (parse html).forest = Forest.parse html := by
  obtain ⟨layouts, -, draws, trees, -⟩ := parse_draws html
  rw [draws.forest_eq, trees]

theorem document_parse (html : String) :
    (parse html).document = .node .document (Forest.parse html) := by
  rw [document, forest_parse]

/-- The slot at a position below a slot. -/
def slotAt? (page : Page) : Nat → List Nat → Option Nat
  | slot, [] => some slot
  | slot, index :: rest => do
    let node ← page.node? slot
    page.slotAt? (← node.children[index]?) rest

theorem slotAt?_eq {page : Page} (layout : Layout)
    (shown : page.Shows layout.cells) (position : List Nat) :
    page.slotAt? layout.slot position =
      (layout.at? position).map Layout.slot := by
  induction position generalizing layout with
  | nil =>
      rw [slotAt?, at?_nil, Option.map_some]
  | cons index rest inductionHypothesis =>
      obtain ⟨slot, content, children⟩ := layout
      rw [cells] at shown
      simp only [slotAt?, Layout.slot, shown.head, at?]
      simp only [Option.bind_eq_bind, Option.bind_some, List.getElem?_map]
      cases here : children[index]? with
      | none =>
          rfl
      | some child =>
          refine inductionHypothesis child fun cell member => ?_
          refine shown.tail cell ?_
          rw [cellsAll_eq_flatMap]
          exact List.mem_flatMap.mpr
            ⟨child, List.mem_of_getElem? here, member⟩

namespace Draws

variable {page after : Page} {layouts : List Layout}

theorem document_eq (draws : page.Draws layouts) :
    page.document = (Layout.node root .document layouts).tree := by
  rw [document, draws.forest_eq, tree]

theorem contentAt?_document (draws : page.Draws layouts)
    (position : List Nat) :
    page.document.contentAt? position =
      ((Layout.node root .document layouts).at? position).map
        Layout.content := by
  rw [draws.document_eq, Tree.contentAt?, subtree?_tree, Option.map_map]
  congr 1
  exact funext content_tree

theorem slotAt?_root (draws : page.Draws layouts) (position : List Nat) :
    page.slotAt? root position =
      ((Layout.node root .document layouts).at? position).map Layout.slot :=
  slotAt?_eq (.node root .document layouts) draws.holds.shows position

theorem exists_slotAt? (draws : page.Draws layouts) {slot : Nat} {node : Node}
    (found : page.node? slot = some node) :
    ∃ position, page.slotAt? root position = some slot := by
  obtain ⟨position, layout, there, same⟩ :=
    exists_at?_of_mem_cells (.node root .document layouts)
      ((draws.holds.node slot node).mp found)
  refine ⟨position, ?_⟩
  rw [draws.slotAt?_root, there]
  exact congrArg (fun cell : Cell => some cell.1) same

/-- The layout at the position of a slot is that of its node. -/
theorem at?_of_slotAt? (draws : page.Draws layouts) {slot : Nat}
    {position : List Nat} (place : page.slotAt? root position = some slot)
    {node : Node} (found : page.node? slot = some node) :
    ∃ layout,
      (Layout.node root .document layouts).at? position = some layout ∧
      layout.cell = (slot, node) := by
  rw [draws.slotAt?_root] at place
  obtain ⟨layout, there, rfl⟩ := Option.map_eq_some_iff.mp place
  refine ⟨layout, there, Prod.ext rfl ?_⟩
  have same : page.node? layout.slot = some layout.cell.2 :=
    draws.holds.shows _ (cell_mem_of_at? there)
  rw [found] at same
  exact (Option.some.inj same).symm

/-- What is put into a slot is put at its position in the document. -/
theorem document_replaceAll (draws : page.Draws layouts) {found : Layout}
    {position : List Nat}
    (there : (Layout.node root .document layouts).at? position = some found)
    (inner : found.slot ≠ root) {content : Content}
    {change : List Layout → List Layout}
    (drawsAfter :
      after.Draws (replaceAll found.slot content change layouts)) :
    after.document = page.document.changeAt
      (fun _ => .node content (treeAll (change found.children)))
      position := by
  have distinct :
      ((Layout.node root .document layouts).cells.map (·.1)).Nodup :=
    draws.holds.distinct
  have replaced := tree_replace distinct there content change
  rw [replace, if_neg (Ne.symm inner)] at replaced
  rw [draws.document_eq, drawsAfter.document_eq, replaced]

/-- The content of an element that has just been put into its slot. -/
theorem forestBelow_replaceAll (draws : page.Draws layouts) {slot : Nat}
    {node : Node} (found : page.node? slot = some node)
    (inner : slot ≠ root) {content : Content} {added : List Layout}
    (drawsAfter :
      after.Draws (replaceAll slot content (fun _ => added) layouts)) :
    after.forestBelow slot = treeAll added := by
  obtain ⟨children, outer, -, -, changing⟩ := draws.split found inner
  have holds := drawsAfter.holds.perm (changing content fun _ => added)
  rw [forestBelow, holds.forestBelow?, Option.getD_some]

/-- What is below a slot of the document. -/
theorem forestBelow_eq (draws : page.Draws layouts) {layout : Layout}
    {position : List Nat}
    (there : (Layout.node root .document layouts).at? position =
      some layout) :
    page.forestBelow layout.slot = treeAll layout.children := by
  have cells := cells_sublist_of_at? there
  have shown : page.Shows layout.cells :=
    fun cell member => draws.holds.shows cell (cells.subset member)
  have fits := draws.holds.length_add_length
  rw [cells_eq_cons] at cells shown
  have deep : (cellsAll layout.children).length ≤ page.slots.size := by
    have shorter := cells.length_le
    rw [List.length_cons] at shorter
    exact (Nat.le_of_succ_le shorter).trans (fits ▸ Nat.le_add_left ..)
  have node : page.node? layout.slot = some layout.cell.2 := shown.head
  have below := mapM_treeAt?_eq layout.children deep shown.tail
  simp only [forestBelow, forestBelow?, node, cell, Option.bind_eq_bind,
    Option.bind_some, below, Option.getD_some]

/-- The ids of a page whose index agrees with its document are those that its
elements have. -/
theorem contains_iff (draws : page.Draws layouts)
    (agrees : page.IndexAgrees layouts) (id : String) :
    page.contains id = true ↔
      ∃ position element,
        page.document.contentAt? position = some (.element element) ∧
        element.attribute? "id" = some id := by
  rw [agrees.contains, bearers, Ne, List.map_eq_nil_iff,
    List.filter_eq_nil_iff]
  push Not
  simp only [beq_iff_eq]
  constructor
  · rintro ⟨⟨slot, content, children⟩, member, named⟩
    obtain ⟨position, layout, there, same⟩ :=
      exists_at?_of_mem_cells (.node root .document layouts)
        (List.mem_cons_of_mem _ member)
    have known : layout.content = content :=
      congrArg (fun cell : Cell => cell.2.content) same
    refine ⟨position, ?_⟩
    rw [draws.contentAt?_document, there, Option.map_some, known]
    cases content with
    | element element =>
        exact ⟨element, rfl, named⟩
    | _ =>
        cases named
  · rintro ⟨position, element, there, named⟩
    rw [draws.contentAt?_document] at there
    obtain ⟨layout, found, isElement⟩ := Option.map_eq_some_iff.mp there
    have listed := cell_mem_of_at? found
    have isId : layout.cell.2.id? = some id := by
      rw [cell, Node.id?, isElement]
      exact named
    refine ⟨layout.cell, (List.mem_cons.mp listed).resolve_left ?_, isId⟩
    intro outermost
    rw [outermost] at isId
    cases isId

end Draws

/-! ## New content -/

/-- A page whose document differs from that of another page in the children of
one element: they are the trees of some markup. -/
structure Substitutes (page after : Page) (slot : Nat) (position : List Nat)
    (markup : String) : Prop where
  place : page.slotAt? root position = some slot
  element : ∃ element,
    page.document.contentAt? position = some (.element element)
  document : after.document = page.document.changeAt
    (Tree.withChildren (parse markup).forest) position
  /-- All nodes that are not below the element stay what and where they are. -/
  around : ∀ other, (position <+: other → other = position) →
    after.document.contentAt? other = page.document.contentAt? other
  /-- The nodes below the element are those of the markup alone. -/
  below : ∀ rest, rest ≠ [] →
    after.document.contentAt? (position ++ rest) =
      (parse markup).document.contentAt? rest
  html : String.ofList (renderAll (after.forestBelow slot)) =
    (parse markup).toHtml
  ids : ∀ id, after.contains id = true ↔
    ∃ other element,
      after.document.contentAt? other = some (.element element) ∧
      element.attribute? "id" = some id

theorem substitutes_setInnerHtml {page after : Page} {layouts : List Layout}
    (draws : page.Draws layouts) {id markup : String} {slot : Nat}
    (known : page.slotOf id = .ok slot) {position : List Nat}
    (place : page.slotAt? root position = some slot)
    (done : page.setInnerHtml id markup = .ok after) :
    page.Substitutes after slot position markup := by
  obtain ⟨element, below, found⟩ := isElement_of_slotOf draws known
  have inner := draws.ne_root found
  obtain ⟨layoutsRead, -, drawsRead, treesRead, -⟩ := parse_draws markup
  obtain ⟨changed, added, replaced, drawsAfter, trees, -⟩ :=
    draws.replaceBelow? found markup
  obtain rfl : changed = after := by
    rw [setInnerHtml, known] at done
    simpa [replaced, bind, Except.bind, pure, Except.pure] using done
  have forest : (parse markup).forest = treeAll added := by
    rw [drawsRead.forest_eq, treesRead, trees]
  obtain ⟨layout, there, same⟩ := draws.at?_of_slotAt? place found
  obtain rfl : layout.slot = slot := congrArg Prod.fst same
  have content : layout.content = .element element :=
    congrArg (fun cell : Cell => cell.2.content) same
  have here : page.document.subtree? position = some layout.tree := by
    rw [draws.document_eq, subtree?_tree, there, Option.map_some]
  have document : changed.document = page.document.changeAt
      (Tree.withChildren (parse markup).forest) position := by
    rw [draws.document_replaceAll there inner drawsAfter]
    refine Tree.changeAt_congr here ?_
    rw [forest, ← content]
    obtain ⟨own, before, children⟩ := layout
    rfl
  have agrees : changed.IndexAgrees _ :=
    (isReindexed_setInnerHtml draws done).tracks drawsAfter
  refine ⟨place, ⟨element, ?_⟩, document, fun other outside => ?_,
    fun rest inside => ?_, ?_, drawsAfter.contains_iff agrees⟩
  · rw [draws.contentAt?_document, there, Option.map_some, content]
  · rw [document]
    exact Tree.contentAt?_withChildren here _ outside
  · rw [document, Tree.contentAt?, Tree.subtree?_changeAt_append here]
    cases rest with
    | nil =>
        exact absurd rfl inside
    | cons index others =>
        obtain ⟨own, before, children⟩ := layout
        rfl
  · rw [draws.forestBelow_replaceAll found inner drawsAfter, ← forest, toHtml]

/-- Whatever was done to a page before, markup that is put into an element
that it knows takes the place of what is below that element and of nothing
else; for any other id the page stays as it is. -/
theorem setInnerHtml_run (html : String) (edits : List Edit)
    (id markup : String) :
    let page := (parse html).run edits
    match page.contains id with
    | true => ∃ slot position after,
        page.slotOf id = .ok slot ∧
        page.setInnerHtml id markup = .ok after ∧
        page.Substitutes after slot position markup
    | false =>
        page.setInnerHtml id markup = .error (.missingElement id) ∧
        (Fault.missingElement id).isConfig = true ∧
        page.edit (.setInnerHtml id markup) = page := by
  intro page
  obtain ⟨layoutsRead, -, drawsRead, -⟩ := parse_draws html
  obtain ⟨layouts, draws⟩ := draws_run drawsRead edits
  cases known : page.contains id with
  | true =>
      obtain ⟨slot, leads⟩ := exists_slotOf known
      obtain ⟨element, below, found⟩ := isElement_of_slotOf draws leads
      obtain ⟨position, place⟩ := draws.exists_slotAt? found
      obtain ⟨after, done⟩ := exists_setInnerHtml known markup
      exact ⟨slot, position, after, leads, done,
        substitutes_setInnerHtml draws leads place done⟩
  | false =>
      have unknown : page.contains (Edit.setInnerHtml id markup).id = false :=
        known
      exact ⟨apply_of_not_contains (.setInnerHtml id markup) unknown, rfl,
        edit_of_not_contains unknown⟩

-- End tags of elements around the target close nothing.
example :
    (((parse "<div><p id=a>x</p>y</div>").setInnerHtml "a"
        "<b></p></div>z").map toHtml).toOption =
      some "<div><p id=\"a\"><b>z</b></p>y</div>" := by
  decide +kernel

end KeymapViewer.Page
