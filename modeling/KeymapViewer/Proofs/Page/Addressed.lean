import KeymapViewer.Proofs.Page.Position

/-!
What ids address. Whatever was done to a page, every id that it knows leads to
an element, and no two ids lead to one; so a change of attributes that an id
addresses is a change of one node, which is known from the slot of the id
alone. The index may be out of date.
-/

namespace KeymapViewer

open Markup

/-- The content of a node after a change of its attributes, which only elements
have. -/
def Markup.Content.editAttributes
    (edit : List Attribute → List Attribute) : Content → Content
  | .element tagged =>
    .element { tagged with attributes := edit tagged.attributes }
  | content => content

theorem Markup.Content.editAttributes_id (content : Content) :
    content.editAttributes id = content := by
  cases content with
  | element tagged =>
      rfl
  | _ =>
      rfl

theorem Markup.Content.editAttributes_comp
    (first second : List Attribute → List Attribute) (content : Content) :
    (content.editAttributes first).editAttributes second =
      content.editAttributes (second ∘ first) := by
  cases content with
  | element tagged =>
      rfl
  | _ =>
      rfl

/-- A change that leaves the ids of elements alone. -/
theorem Markup.Content.id?_editAttributes
    {edit : List Attribute → List Attribute} (keeps : Page.KeepsId edit)
    (content : Content) : (content.editAttributes edit).id? = content.id? := by
  cases content with
  | element tagged =>
      simp only [editAttributes, id?, Element.attribute?,
        keeps tagged.attributes]
  | _ =>
      rfl

namespace Page

open Layout

/-! ## Slots and positions -/

theorem Layout.id?_node (node : Node) : node.id? = node.content.id? := by
  obtain ⟨content, children⟩ := node
  cases content with
  | element element =>
      rfl
  | _ =>
      rfl

/-- With distinct slots, every slot is at one position. -/
theorem Layout.position_unique {layout found other : Layout}
    {position place : List Nat}
    (distinct : (layout.cells.map (·.1)).Nodup)
    (here : layout.at? position = some found)
    (there : layout.at? place = some other)
    (same : found.slot = other.slot) : position = place := by
  induction position generalizing layout place with
  | nil =>
      cases place with
      | nil =>
          rfl
      | cons index rest =>
          obtain ⟨slot, content, children⟩ := layout
          obtain ⟨child, isChild, below⟩ := Option.bind_eq_some_iff.mp there
          have fresh :=
            (distinct_child (List.mem_of_getElem? isChild) distinct).1
          rw [at?_nil, Option.some.injEq] at here
          subst here
          have inside : other.slot ∈ child.cells.map (·.1) :=
            List.mem_map_of_mem (cell_mem_of_at? below)
          rw [← same] at inside
          exact absurd inside fresh
  | cons index rest inductionHypothesis =>
      obtain ⟨slot, content, children⟩ := layout
      obtain ⟨child, isChild, below⟩ := Option.bind_eq_some_iff.mp here
      obtain ⟨fresh, distinctChild⟩ :=
        distinct_child (List.mem_of_getElem? isChild) distinct
      have inside : found.slot ∈ child.cells.map (·.1) :=
        List.mem_map_of_mem (cell_mem_of_at? below)
      cases place with
      | nil =>
          rw [at?_nil, Option.some.injEq] at there
          subst there
          rw [same] at inside
          exact absurd inside fresh
      | cons place others =>
          obtain ⟨next, isNext, further⟩ := Option.bind_eq_some_iff.mp there
          have insideNext : other.slot ∈ next.cells.map (·.1) :=
            List.mem_map_of_mem (cell_mem_of_at? further)
          by_cases equal : index = place
          · subst equal
            obtain rfl := Option.some.inj (isChild.symm.trans isNext)
            rw [inductionHypothesis distinctChild below further]
          · rw [cells, List.map_cons, List.nodup_cons] at distinct
            rw [← same] at insideNext
            exact absurd insideNext
              (slot_notMem_of_ne distinct.2 equal isChild isNext inside)

namespace Draws

variable {page : Page} {layouts : List Layout}

theorem slotAt?_root_unique (draws : page.Draws layouts)
    {position place : List Nat} {slot : Nat}
    (here : page.slotAt? root position = some slot)
    (there : page.slotAt? root place = some slot) : position = place := by
  rw [draws.slotAt?_root] at here there
  obtain ⟨found, foundHere, same⟩ := Option.map_eq_some_iff.mp here
  obtain ⟨other, foundThere, sameThere⟩ := Option.map_eq_some_iff.mp there
  have distinct :
      ((Layout.node root .document layouts).cells.map (·.1)).Nodup :=
    draws.holds.distinct
  exact Layout.position_unique distinct foundHere foundThere
    (same.trans sameThere.symm)

/-- The content at a position is that of the node in its slot. -/
theorem contentAt?_eq_node? (draws : page.Draws layouts)
    (position : List Nat) :
    page.document.contentAt? position =
      ((page.slotAt? root position).bind page.node?).map Node.content := by
  rw [draws.contentAt?_document, draws.slotAt?_root]
  cases there : (Layout.node root .document layouts).at? position with
  | none =>
      rfl
  | some layout =>
      have shown : page.node? layout.slot = some layout.cell.2 :=
        draws.holds.shows _ (cell_mem_of_at? there)
      simp only [Option.map_some, Option.bind_some, shown]
      rfl

theorem contentAt?_of_slotAt? (draws : page.Draws layouts) {slot : Nat}
    {position : List Nat} (placed : page.slotAt? root position = some slot)
    {node : Node} (found : page.node? slot = some node) :
    page.document.contentAt? position = some node.content := by
  rw [draws.contentAt?_eq_node?, placed, Option.bind_some, found,
    Option.map_some]

end Draws

/-! ## Changes of attributes in slots -/

def Node.editAttributes (edit : List Attribute → List Attribute)
    (node : Node) : Node :=
  { node with content := node.content.editAttributes edit }

/-- The page after the attributes in each slot are changed as the slot
says. -/
def editSlots (page : Page)
    (edits : Nat → List Attribute → List Attribute) : Page :=
  { page with
    slots := page.slots.mapIdx fun slot =>
      Option.map (Node.editAttributes (edits slot)) }

/-- A change in one slot. -/
def only (slot : Nat) (edit : List Attribute → List Attribute) :
    Nat → List Attribute → List Attribute :=
  fun other => if other = slot then edit else id

/-- The change at a position, if slots change as they say. -/
def editsAt (page : Page) (edits : Nat → List Attribute → List Attribute)
    (position : List Nat) : List Attribute → List Attribute :=
  ((page.slotAt? root position).map edits).getD id

theorem Node.editAttributes_id : Node.editAttributes id = id := by
  funext node
  rw [editAttributes, Content.editAttributes_id]
  rfl

theorem Node.id?_editAttributes {edit : List Attribute → List Attribute}
    (keeps : KeepsId edit) (node : Node) :
    (node.editAttributes edit).id? = node.id? := by
  rw [Layout.id?_node, Layout.id?_node]
  exact node.content.id?_editAttributes keeps

theorem Node.editAttributes_comp
    (first second : List Attribute → List Attribute) :
    Node.editAttributes second ∘ Node.editAttributes first =
      Node.editAttributes (second ∘ first) := by
  funext node
  simp only [Function.comp_apply, editAttributes, Content.editAttributes_comp]

theorem only_comp (slot : Nat)
    (first second : List Attribute → List Attribute) :
    (fun other => only slot second other ∘ only slot first other) =
      only slot (second ∘ first) := by
  funext other
  by_cases here : other = slot
  · simp only [only, here, ↓reduceIte]
  · simp only [only, here, ↓reduceIte, Function.id_comp]

section

variable {page : Page} {slot : Nat}

theorem node?_editSlots (page : Page)
    (edits : Nat → List Attribute → List Attribute) (slot : Nat) :
    (page.editSlots edits).node? slot =
      (page.node? slot).map (Node.editAttributes (edits slot)) := by
  unfold node? editSlots
  rw [Array.getElem?_mapIdx]
  cases page.slots[slot]? with
  | none =>
      rfl
  | some node =>
      rfl

theorem editSlots_id (page : Page) : page.editSlots (fun _ => id) = page := by
  have same : page.slots.mapIdx
      (fun _ => Option.map (Node.editAttributes id)) = page.slots := by
    refine Array.mapIdx_eq_iff.mpr fun slot => ?_
    rw [Node.editAttributes_id, Option.map_id, Option.map_id]
    rfl
  rw [editSlots, same]

theorem editSlots_comp (page : Page)
    (first second : Nat → List Attribute → List Attribute) :
    (page.editSlots first).editSlots second =
      page.editSlots fun slot => second slot ∘ first slot := by
  simp only [editSlots, Array.mapIdx_mapIdx]
  congr 2
  funext slot
  rw [Option.map_comp_map, Node.editAttributes_comp]

theorem slotAt?_editSlots (page : Page)
    (edits : Nat → List Attribute → List Attribute) (slot : Nat)
    (position : List Nat) :
    (page.editSlots edits).slotAt? slot position =
      page.slotAt? slot position := by
  induction position generalizing slot with
  | nil =>
      rfl
  | cons index rest inductionHypothesis =>
      simp only [slotAt?, node?_editSlots, inductionHypothesis]
      cases page.node? slot with
      | none =>
          rfl
      | some node =>
          rfl

/-- Changes of attributes that leave ids alone leave the index right. -/
theorem sameIds_editSlots {edits : Nat → List Attribute → List Attribute}
    (keeps : ∀ slot, KeepsId (edits slot)) :
    page.SameIds (page.editSlots edits) where
  index := rfl
  ids slot := by
    cases found : page.node? slot with
    | none =>
        simp [idOf?, node?_editSlots, found]
    | some node =>
        have foundAfter : (page.editSlots edits).node? slot =
            some (node.editAttributes (edits slot)) := by
          rw [node?_editSlots, found, Option.map_some]
        rw [idOf?_of_node? found, idOf?_of_node? foundAfter]
        exact node.id?_editAttributes (keeps slot)
  order := by
    have size : (page.editSlots edits).slots.size = page.slots.size :=
      Array.size_mapIdx
    rw [size]
    refine walk?_congr (fun slot => ?_) ..
    rw [node?_editSlots, Option.map_map]
    rfl

theorem editAttributes?_eq {element : Element} {below : List Nat}
    (found : page.node? slot = some ⟨.element element, below⟩)
    (edit : List Attribute → List Attribute) :
    page.editAttributes? slot edit =
      some (page.editSlots (only slot edit)) := by
  have stored : page.slots[slot]? = some (some ⟨.element element, below⟩) :=
    Option.join_eq_some_iff.mp found
  simp only [editAttributes?, found, setNode, editSlots]
  congr 2
  refine (Array.mapIdx_eq_iff.mpr fun other => ?_).symm
  rw [Array.getElem?_setIfInBounds]
  by_cases here : slot = other
  · subst here
    simp only [↓reduceIte, lt_size_of_node? found, stored, only]
    rfl
  · rw [if_neg here, only, if_neg (Ne.symm here), Node.editAttributes_id,
      Option.map_id, Option.map_id]
    rfl

namespace Draws

variable {layouts layoutsAfter : List Layout}

/-- The contents of a document after the attributes in its slots have
changed. -/
theorem contentAt?_editSlots (draws : page.Draws layouts)
    {edits : Nat → List Attribute → List Attribute}
    (drawsAfter : (page.editSlots edits).Draws layoutsAfter)
    (position : List Nat) :
    (page.editSlots edits).document.contentAt? position =
      (page.document.contentAt? position).map
        (.editAttributes (page.editsAt edits position)) := by
  rw [draws.contentAt?_eq_node?, drawsAfter.contentAt?_eq_node?,
    slotAt?_editSlots, editsAt]
  cases page.slotAt? root position with
  | none =>
      rfl
  | some slot =>
      simp only [Option.bind_some, node?_editSlots, Option.map_map,
        Option.map_some, Option.getD_some]
      rfl

theorem first?_editSlots (draws : page.Draws layouts)
    {edits : Nat → List Attribute → List Attribute}
    (drawsAfter : (page.editSlots edits).Draws layoutsAfter)
    (keeps : ∀ slot, KeepsId (edits slot)) (id : String) :
    (page.editSlots edits).document.first? id = page.document.first? id := by
  refine Tree.first?_congr (fun place => ?_) id
  have kept : KeepsId (page.editsAt edits place) := by
    unfold editsAt
    cases page.slotAt? root place with
    | none =>
        exact fun _ => rfl
    | some slot =>
        exact keeps slot
  rw [Tree.idAt?, Tree.idAt?, draws.contentAt?_editSlots drawsAfter,
    Option.bind_map]
  congr 1
  exact funext (Content.id?_editAttributes kept)

/-- A change in one slot is a change at one position. -/
theorem contentAt?_only (draws : page.Draws layouts)
    {edit : List Attribute → List Attribute}
    (drawsAfter : (page.editSlots (only slot edit)).Draws layoutsAfter)
    {position : List Nat}
    (placed : page.slotAt? root position = some slot) (place : List Nat) :
    (page.editSlots (only slot edit)).document.contentAt? place =
      if place = position then
        (page.document.contentAt? position).map (.editAttributes edit)
      else page.document.contentAt? place := by
  rw [draws.contentAt?_editSlots drawsAfter, editsAt]
  by_cases here : place = position
  · subst here
    rw [if_pos rfl, placed, Option.map_some, Option.getD_some, only,
      if_pos rfl]
  · have unchanged :
        ((page.slotAt? root place).map (only slot edit)).getD id = id := by
      cases there : page.slotAt? root place with
      | none =>
          rfl
      | some other =>
          have differs : other ≠ slot := by
            rintro rfl
            exact here (draws.slotAt?_root_unique there placed)
          rw [Option.map_some, Option.getD_some, only, if_neg differs]
    rw [if_neg here, unchanged]
    cases page.document.contentAt? place with
    | none =>
        rfl
    | some content =>
        rw [Option.map_some, content.editAttributes_id]

end Draws

end

/-! ## Pages as edits leave them -/

/-- A page that draws a document, where no two ids lead to one element. -/
structure IsSound (page : Page) : Prop where
  draws : ∃ layouts, page.Draws layouts
  apart : ∀ {id other : String} {slot : Nat},
    page.slotOf id = .ok slot → page.slotOf other = .ok slot → id = other

/-- The position of the element that an id leads to. -/
def Addresses (page : Page) (id : String) (position : List Nat) : Prop :=
  ∃ slot, page.slotOf id = .ok slot ∧ page.slotAt? root position = some slot

section

variable {page after : Page} {layouts : List Layout} {id name : String}
  {slot : Nat}

/-- In an index that agrees with its document, an id leads to an element that
has it. -/
theorem IndexAgrees.idOf?_eq (agrees : page.IndexAgrees layouts)
    (draws : page.Draws layouts) (leads : page.slotOf id = .ok slot) :
    page.idOf? slot = some id := by
  have first := (agrees.slotOf id slot).mp leads
  rw [bearers_eq_filter draws.holds] at first
  exact beq_iff_eq.mp (List.mem_filter.mp (List.mem_of_mem_head? first)).2

theorem IndexAgrees.isSound (agrees : page.IndexAgrees layouts)
    (draws : page.Draws layouts) : page.IsSound := by
  refine ⟨⟨layouts, draws⟩, fun leads leadsOther => ?_⟩
  have named := agrees.idOf?_eq draws leads
  rw [agrees.idOf?_eq draws leadsOther] at named
  exact (Option.some.inj named).symm

/-- An edit leaves the index as it is or makes it anew. -/
theorem ids_eq_or_isReindexed (draws : page.Draws layouts) {change : Edit}
    (done : change.apply page = .ok after) :
    after.ids = page.ids ∨ after.IsReindexed := by
  cases change with
  | setAttribute id name value =>
      by_cases isId : name = "id"
      · subst isId
        exact .inr (isReindexed_setAttribute draws done)
      · exact .inl (sameIds_setAttribute isId done).index
  | removeAttribute id name =>
      obtain ⟨slot, leads, -⟩ := exists_of_bind_eq_ok done
      have known : page.contains id = true := by
        rw [contains, (slotOf_eq_ok_iff ..).mp leads]
        rfl
      obtain ⟨removed, same, kept⟩ := exists_removeAttribute known name
      obtain rfl := Except.ok.inj (same.symm.trans done)
      exact .inl kept
  | setStyleProperty id property value =>
      exact .inl (sameIds_setStyleProperty done).index
  | setChecked id checked =>
      exact .inl (sameIds_setChecked done).index
  | setValue id value =>
      obtain ⟨textArea, -, done⟩ := exists_of_bind_eq_ok done
      cases textArea with
      | true =>
          exact .inr (isReindexed_setInnerHtml draws done)
      | false =>
          have same : page.SameIds after :=
            sameIds_setAttribute (by decide) done
          exact .inl same.index
  | setInnerHtml id markup =>
      exact .inr (isReindexed_setInnerHtml draws done)

theorem contains_congr (same : after.ids = page.ids) (id : String) :
    after.contains id = page.contains id := by
  rw [contains, contains, same]

theorem slotOf_congr (same : after.ids = page.ids) (id : String) :
    after.slotOf id = page.slotOf id := by
  rw [slotOf, slotOf, same]

theorem addresses_editSlots {position : List Nat}
    {edits : Nat → List Attribute → List Attribute} :
    (page.editSlots edits).Addresses id position ↔
      page.Addresses id position := by
  unfold Addresses
  simp only [slotAt?_editSlots]
  rfl

namespace IsSound

theorem of_ids_eq (sound : page.IsSound) (draws : after.Draws layouts)
    (same : after.ids = page.ids) : after.IsSound := by
  refine ⟨⟨layouts, draws⟩, fun leads leadsOther => ?_⟩
  rw [slotOf_congr same] at leads leadsOther
  exact sound.apart leads leadsOther

theorem edit (sound : page.IsSound) (change : Edit) :
    (page.edit change).IsSound := by
  obtain ⟨layouts, draws⟩ := sound.draws
  obtain ⟨layoutsAfter, drawsAfter⟩ := (follows_edit draws change).draws
  unfold Page.edit at drawsAfter ⊢
  rcases done : change.apply page with fault | after
  · exact sound
  · rw [done] at drawsAfter
    rcases ids_eq_or_isReindexed draws done with same | reindexed
    · exact sound.of_ids_eq drawsAfter same
    · have agrees : after.IndexAgrees layoutsAfter :=
        reindexed.tracks drawsAfter
      exact agrees.isSound drawsAfter

theorem run (sound : page.IsSound) (edits : List Edit) :
    (page.run edits).IsSound := by
  induction edits generalizing page with
  | nil =>
      exact sound
  | cons change rest inductionHypothesis =>
      exact inductionHypothesis (sound.edit change)

theorem isElement (sound : page.IsSound)
    (leads : page.slotOf id = .ok slot) : page.IsElement slot := by
  obtain ⟨layouts, draws⟩ := sound.draws
  exact isElement_of_slotOf draws leads

/-- Every id that a page knows has a position. -/
theorem exists_addresses (sound : page.IsSound)
    (known : page.contains id = true) :
    ∃ position, page.Addresses id position := by
  obtain ⟨layouts, draws⟩ := sound.draws
  obtain ⟨slot, leads⟩ := exists_slotOf known
  obtain ⟨element, below, found⟩ := isElement_of_slotOf draws leads
  obtain ⟨position, placed⟩ := draws.exists_slotAt? found
  exact ⟨position, slot, leads, placed⟩

/-- Setting an attribute changes the node in the slot of its id. -/
theorem setAttribute (sound : page.IsSound)
    (leads : page.slotOf id = .ok slot) (other : name ≠ "id")
    (value : String) :
    page.setAttribute id name value =
        .ok (page.editSlots (only slot (withAttribute name value))) ∧
      (page.editSlots (only slot (withAttribute name value))).IsSound := by
  obtain ⟨layouts, draws⟩ := sound.draws
  obtain ⟨element, below, found⟩ := isElement_of_slotOf draws leads
  have done : page.setAttribute id name value =
      .ok (page.editSlots (only slot (withAttribute name value))) := by
    simp [Page.setAttribute, setAttributeAt?, leads, editAttributes?_eq found,
      other, bind, Except.bind, pure, Except.pure]
  obtain ⟨layoutsAfter, drawsAfter⟩ := (keeps_setAttribute draws done).draws
  exact ⟨done, sound.of_ids_eq drawsAfter rfl⟩

/-- What is found by an id is at the position that the id addresses. -/
theorem find_eq_ok_iff (sound : page.IsSound)
    {position : List Nat} (addresses : page.Addresses id position)
    {element : Element} :
    page.find id = .ok element ↔
      page.document.contentAt? position = some (.element element) := by
  obtain ⟨slot, leads, placed⟩ := addresses
  obtain ⟨other, below, found⟩ := sound.isElement leads
  obtain ⟨layouts, draws⟩ := sound.draws
  rw [find_of_node? leads found, draws.contentAt?_of_slotAt? placed found,
    Except.ok.injEq, Option.some.injEq, Content.element.injEq]

/-- Setting an attribute of an element changes what is at its position, and
nothing else. -/
theorem exists_setAttribute (sound : page.IsSound)
    {position : List Nat} (addresses : page.Addresses id position)
    {element : Element}
    (there : page.document.contentAt? position = some (.element element))
    (other : name ≠ "id") (value : String) :
    ∃ after, page.setAttribute id name value = .ok after ∧
      after.IsSound ∧ after.ids = page.ids ∧
      after.Addresses id position ∧
      ∀ place, after.document.contentAt? place =
        if place = position then
          some (.element { element with
            attributes := withAttribute name value element.attributes })
        else page.document.contentAt? place := by
  have addressesAfter := addresses
  obtain ⟨slot, leads, placed⟩ := addresses
  obtain ⟨done, soundAfter⟩ := sound.setAttribute leads other value
  obtain ⟨layouts, draws⟩ := sound.draws
  obtain ⟨layoutsAfter, drawsAfter⟩ := soundAfter.draws
  refine ⟨_, done, soundAfter, rfl,
    addresses_editSlots.mpr addressesAfter, fun place => ?_⟩
  rw [draws.contentAt?_only drawsAfter placed, there]
  rfl

/-- Two positions of one id are the same. -/
theorem addresses_unique (sound : page.IsSound) {position place : List Nat}
    (here : page.Addresses id position) (there : page.Addresses id place) :
    position = place := by
  obtain ⟨layouts, draws⟩ := sound.draws
  obtain ⟨slot, leads, placed⟩ := here
  obtain ⟨other, leadsThere, placedThere⟩ := there
  obtain rfl := Except.ok.inj (leads.symm.trans leadsThere)
  exact draws.slotAt?_root_unique placed placedThere

/-- No position is addressed by two ids. -/
theorem eq_of_addresses (sound : page.IsSound) {other : String}
    {position : List Nat} (here : page.Addresses id position)
    (there : page.Addresses other position) : id = other := by
  obtain ⟨slot, leads, placed⟩ := here
  obtain ⟨place, leadsThere, placedThere⟩ := there
  obtain rfl := Option.some.inj (placed.symm.trans placedThere)
  exact sound.apart leads leadsThere

end IsSound

end

/-- Whatever is done to the page of a text, no two ids lead to one element. -/
theorem isSound_run (html : String) (edits : List Edit) :
    ((parse html).run edits).IsSound := by
  obtain ⟨layouts, -, draws, -⟩ := parse_draws html
  have agrees : (parse html).IndexAgrees layouts :=
    (parse_isReindexed html).tracks draws
  exact (agrees.isSound draws).run edits

end Page

end KeymapViewer
