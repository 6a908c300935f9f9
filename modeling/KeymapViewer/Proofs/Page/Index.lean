import KeymapViewer.Proofs.Page.Edit

/-!
The index of ids against the document. An index that has just been made agrees
with the document, and an edit that leaves all ids alone leaves the agreement
alone. Taking an id away changes the document but not the index, which then
misses the document until it is made anew.
-/

namespace KeymapViewer.Page

open Markup Layout

/-- The id of a node, if it is an element that has one. -/
def Node.id? (node : Node) : Option String :=
  match node.content with
  | .element element => element.attribute? "id"
  | _ => none

/-- The slots of the elements with an id, in document order. -/
def bearers (layouts : List Layout) (id : String) : List Nat :=
  ((cellsAll layouts).filter (·.2.id? == some id)).map (·.1)

/-- The ids that can be found are those that elements of the document have,
and each leads to the first element that has it. -/
structure IndexAgrees (page : Page) (layouts : List Layout) : Prop where
  contains : ∀ id, page.contains id = true ↔ bearers layouts id ≠ []
  slotOf : ∀ id slot,
    page.slotOf id = .ok slot ↔ (bearers layouts id).head? = some slot

theorem slotOf_eq_ok_iff (page : Page) (id : String) (slot : Nat) :
    page.slotOf id = .ok slot ↔ page.ids.lookup id = some slot := by
  unfold slotOf
  cases page.ids.lookup id with
  | none =>
      simp
  | some found =>
      simp

theorem indexAgrees_iff (page : Page) (layouts : List Layout) :
    page.IndexAgrees layouts ↔
      ∀ id, page.ids.lookup id = (bearers layouts id).head? := by
  constructor
  · intro agrees id
    refine Option.ext fun slot => ?_
    rw [← slotOf_eq_ok_iff, agrees.slotOf]
  · intro same
    refine ⟨fun id => ?_, fun id slot => ?_⟩
    · rw [Page.contains, same]
      cases bearers layouts id with
      | nil =>
          simp
      | cons first rest =>
          simp
    · rw [slotOf_eq_ok_iff, same]

/-! ## Making the index -/

/-- Of the entries for one id the first is the one that is found. -/
theorem lookup_foldl_indexElement (entries index : List (String × Nat))
    (id : String) :
    (entries.foldl indexElement index).lookup id =
      (index ++ entries).lookup id := by
  induction entries generalizing index with
  | nil =>
      rw [List.foldl_nil, List.append_nil]
  | cons entry rest inductionHypothesis =>
      rw [List.foldl_cons, inductionHypothesis]
      unfold indexElement
      split
      · rename_i known
        rw [List.lookup_append, List.lookup_append]
        by_cases same : id = entry.1
        · rw [← same] at known
          obtain ⟨slot, found⟩ := Option.isSome_iff_exists.mp known
          rw [found, Option.some_or, Option.some_or]
        · rw [List.lookup_cons, beq_eq_false_iff_ne.mpr same]
      · rw [List.append_assoc, List.singleton_append]

theorem lookup_filterMap_idOf? (page : Page) (slots : List Nat)
    (id : String) :
    (slots.filterMap fun slot => (page.idOf? slot).map (·, slot)).lookup id =
      (slots.filter (page.idOf? · == some id)).head? := by
  induction slots with
  | nil =>
      rfl
  | cons slot rest inductionHypothesis =>
      rcases named : page.idOf? slot with none_ | other
      · simpa [named] using inductionHypothesis
      · by_cases same : id = other
        · simp [named, same]
        · have apart : (id == other) = false := beq_eq_false_iff_ne.mpr same
          simpa [named, List.lookup_cons, apart, Ne.symm same] using
            inductionHypothesis

theorem idOf?_of_node? {page : Page} {slot : Nat} {node : Node}
    (found : page.node? slot = some node) : page.idOf? slot = node.id? := by
  obtain ⟨content, children⟩ := node
  rw [idOf?, found]
  cases content with
  | element element =>
      rfl
  | _ =>
      rfl

/-- The bearers of an id are found on a walk over the slots as well. -/
theorem bearers_eq_filter {page : Page} {layouts : List Layout}
    (holds : page.Holds (documentCells layouts)) (id : String) :
    bearers layouts id =
      ((documentCells layouts).map (·.1)).filter
        (page.idOf? · == some id) := by
  have outermost : page.idOf? root = none :=
    idOf?_of_node? (Holds.lookup holds)
  have below :
      ∀ cell ∈ cellsAll layouts,
        (cell.2.id? == some id) = (page.idOf? cell.1 == some id) := by
    intro cell member
    rw [idOf?_of_node? (holds.shows cell (List.mem_cons_of_mem _ member))]
  rw [documentCells, List.map_cons, List.filter_cons_of_neg (by simp [outermost]),
    List.filter_map, bearers, List.filter_congr below]
  rfl

/-- A walk depends on the children of the nodes alone. -/
theorem walk?_congr {page after : Page}
    (same : ∀ slot,
      (after.node? slot).map Node.children =
        (page.node? slot).map Node.children)
    (steps : Nat) (pending : List Nat) :
    after.walk? steps pending = page.walk? steps pending := by
  induction steps generalizing pending with
  | zero =>
      cases pending with
      | nil =>
          rfl
      | cons slot rest =>
          rfl
  | succ steps inductionHypothesis =>
      cases pending with
      | nil =>
          rfl
      | cons slot rest =>
          have sameHere := same slot
          rcases here : page.node? slot with none_ | node
          · rw [here, Option.map_none, Option.map_eq_none_iff] at sameHere
            simp [walk?, here, sameHere]
          · rw [here, Option.map_some] at sameHere
            obtain ⟨other, found, children⟩ :=
              Option.map_eq_some_iff.mp sameHere
            simp [walk?, here, found, children, inductionHypothesis]

/-- An index that has just been made agrees with the document. -/
theorem indexAgrees_of_reindex? {page after : Page} {layouts : List Layout}
    (done : page.reindex? = some after) (draws : after.Draws layouts) :
    after.IndexAgrees layouts := by
  rw [indexAgrees_iff]
  intro id
  unfold reindex? at done
  simp only [Option.bind_eq_bind, Option.pure_def] at done
  obtain ⟨slots, walked, same⟩ := Option.bind_eq_some_iff.mp done
  injection same with same
  have sameNodes (slot : Nat) : after.node? slot = page.node? slot := by
    rw [← same]
    rfl
  have sameSize : after.slots.size = page.slots.size := by
    rw [← same]
  have sameWalk :
      after.walk? page.slots.size [root] = page.walk? page.slots.size [root] :=
    walk?_congr (fun slot => by rw [sameNodes slot]) ..
  -- The walk that made the index still goes through the same slots.
  have order := walk?_root draws.holds
  rw [sameSize, sameWalk, walked] at order
  injection order with order
  have index : after.ids.lookup id =
      (slots.filter (page.idOf? · == some id)).head? := by
    rw [← lookup_filterMap_idOf?, ← same]
    exact lookup_foldl_indexElement _ [] id
  rw [bearers_eq_filter draws.holds, ← order, index]
  simp only [idOf?, sameNodes]

/-! ## Edits that leave the ids alone -/

/-- A page with the elements in the same order, each with the id it had, and
with the same index. -/
structure SameIds (page after : Page) : Prop where
  index : after.ids = page.ids
  ids : ∀ slot, after.idOf? slot = page.idOf? slot
  order : after.walk? after.slots.size [root] =
    page.walk? page.slots.size [root]

theorem SameIds.refl (page : Page) : page.SameIds page :=
  ⟨rfl, fun _ => rfl, rfl⟩

theorem SameIds.trans {first second third : Page}
    (before : first.SameIds second) (after : second.SameIds third) :
    first.SameIds third where
  index := after.index.trans before.index
  ids slot := (after.ids slot).trans (before.ids slot)
  order := after.order.trans before.order

theorem SameIds.indexAgrees {page after : Page}
    {layouts layoutsAfter : List Layout} (same : page.SameIds after)
    (draws : page.Draws layouts) (drawsAfter : after.Draws layoutsAfter)
    (agrees : page.IndexAgrees layouts) :
    after.IndexAgrees layoutsAfter := by
  rw [indexAgrees_iff] at agrees ⊢
  intro id
  have order := same.order
  rw [walk?_root draws.holds, walk?_root drawsAfter.holds] at order
  injection order with order
  rw [same.index, agrees, bearers_eq_filter draws.holds,
    bearers_eq_filter drawsAfter.holds, order]
  simp only [same.ids]

/-- A change of attributes that leaves the id of an element alone. -/
def KeepsId (edit : List Attribute → List Attribute) : Prop :=
  ∀ attributes, (edit attributes).find? (·.name == "id") =
    attributes.find? (·.name == "id")

theorem keepsId_withAttribute {name : String} (other : name ≠ "id")
    (value : String) : KeepsId (withAttribute name value) := by
  intro attributes
  induction attributes with
  | nil =>
      simp [withAttribute, other]
  | cons item rest inductionHypothesis =>
      rw [withAttribute]
      split
      · rename_i named
        have differs : item.name ≠ "id" := by
          rw [beq_iff_eq.mp named]
          exact other
        simp [differs]
      · rw [List.find?_cons, List.find?_cons, inductionHypothesis]

theorem keepsId_filter {name : String} (other : name ≠ "id") :
    KeepsId (·.filter (·.name != name)) := by
  intro attributes
  rw [List.find?_filter]
  congr 1
  funext item
  by_cases named : item.name = "id"
  · simp [named, Ne.symm other]
  · simp [named]

theorem sameIds_editAttributes? {page after : Page} {slot : Nat}
    {edit : List Attribute → List Attribute} (keeps : KeepsId edit)
    (done : page.editAttributes? slot edit = some after) :
    page.SameIds after := by
  unfold editAttributes? at done
  split at done
  · rename_i element children found
    injection done with same
    have reads (other : Nat) :
        after.node? other =
          if other = slot then
            some ⟨.element { element with
              attributes := edit element.attributes }, children⟩
          else page.node? other := by
      rw [← same, node?_setNode (lt_size_of_node? found)]
    refine ⟨by rw [← same]; rfl, fun other => ?_, ?_⟩
    · by_cases here : other = slot
      · subst here
        rw [idOf?_of_node? found, idOf?_of_node? ((reads other).trans
          (if_pos rfl))]
        simp only [Node.id?, Element.attribute?]
        rw [keeps]
      · unfold idOf?
        rw [reads, if_neg here]
    · have size : after.slots.size = page.slots.size := by
        rw [← same, size_setNode]
      rw [size]
      refine walk?_congr (fun other => ?_) ..
      rw [reads]
      split
      · rename_i here
        rw [here, found]
        rfl
      · rfl
  · cases done

section

variable {page after : Page} {id name : String}

theorem sameIds_removeAttribute (other : name ≠ "id")
    (done : page.removeAttribute id name = .ok after) :
    page.SameIds after := by
  obtain ⟨slot, -, same⟩ := exists_of_bind_eq_ok done
  cases same
  rcases edited :
      page.editAttributes? slot (·.filter (·.name != name)) with
    none_ | changed
  · exact .refl page
  · exact sameIds_editAttributes? (keepsId_filter other) edited

theorem sameIds_setAttribute (other : name ≠ "id") {value : String}
    (done : page.setAttribute id name value = .ok after) :
    page.SameIds after := by
  obtain ⟨slot, -, same⟩ := exists_of_bind_eq_ok done
  cases same
  unfold setAttributeAt?
  rcases edited :
      page.editAttributes? slot (withAttribute name value) with
    none_ | changed
  · exact .refl page
  · simp only [Option.bind_eq_bind, Option.bind_some, other, ↓reduceIte]
    exact sameIds_editAttributes? (keepsId_withAttribute other value) edited

theorem sameIds_removeAttributes (other : name ≠ "id") (others : List String)
    (done : others.foldlM (·.removeAttribute · name) page = .ok after) :
    page.SameIds after := by
  induction others generalizing page with
  | nil =>
      cases done
      exact .refl _
  | cons first rest inductionHypothesis =>
      rw [List.foldlM_cons] at done
      obtain ⟨between, removed, done⟩ := exists_of_bind_eq_ok done
      exact (sameIds_removeAttribute other removed).trans
        (inductionHypothesis done)

theorem sameIds_setChecked {checked : Bool}
    (done : page.setChecked id checked = .ok after) :
    page.SameIds after := by
  unfold setChecked at done
  cases checked with
  | false =>
      exact sameIds_removeAttribute (by decide) done
  | true =>
      obtain ⟨element, -, done⟩ := exists_of_bind_eq_ok done
      obtain ⟨cleared, removing, done⟩ := exists_of_bind_eq_ok done
      exact (sameIds_removeAttributes (by decide) _ removing).trans
        (sameIds_setAttribute (by decide) done)

theorem sameIds_setStyleProperty {property value : String}
    (done : page.setStyleProperty id property value = .ok after) :
    page.SameIds after := by
  obtain ⟨style, -, done⟩ := exists_of_bind_eq_ok done
  exact sameIds_setAttribute (by decide) done

end

/-! ## Edits that make the index anew -/

section

variable {page after : Page} {layouts : List Layout} {id : String}

/-- A page with an index that has just been made. -/
def IsReindexed (page : Page) : Prop :=
  ∃ before : Page, before.reindex? = some page

theorem isReindexed_setAttribute (draws : page.Draws layouts)
    {value : String} (done : page.setAttribute id "id" value = .ok after) :
    after.IsReindexed := by
  obtain ⟨slot, ⟨element, below, found⟩, rfl⟩ := isElement_of_done draws done
  obtain ⟨changed, same, -, -⟩ := draws.setAttributeAt? found "id" value
  rw [same, Option.getD_some]
  unfold setAttributeAt? at same
  obtain ⟨edited, -, reindexed⟩ := Option.bind_eq_some_iff.mp same
  rw [if_pos rfl] at reindexed
  exact ⟨edited, reindexed⟩

theorem isReindexed_setInnerHtml (draws : page.Draws layouts)
    {markup : String} (done : page.setInnerHtml id markup = .ok after) :
    after.IsReindexed := by
  obtain ⟨slot, ⟨element, below, found⟩, rfl⟩ := isElement_of_done draws done
  obtain ⟨changed, -, same, -⟩ := draws.replaceBelow? found markup
  rw [same, Option.getD_some]
  unfold replaceBelow? at same
  obtain ⟨cleared, -, rest⟩ := Option.bind_eq_some_iff.mp same
  obtain ⟨filled, -, reindexed⟩ := Option.bind_eq_some_iff.mp rest
  exact ⟨filled, reindexed⟩

/-! ## Taking an id away -/

/-- An id that can be found leads to a slot without an id. -/
def IsStale (page : Page) : Prop :=
  ∃ id slot, page.ids.lookup id = some slot ∧ page.idOf? slot = none

theorem IsStale.not_indexAgrees (stale : page.IsStale)
    (draws : page.Draws layouts) : ¬ page.IndexAgrees layouts := by
  intro agrees
  rw [indexAgrees_iff] at agrees
  obtain ⟨id, slot, found, unnamed⟩ := stale
  rw [agrees, bearers_eq_filter draws.holds] at found
  have bears := (List.mem_filter.mp (List.mem_of_mem_head? found)).2
  rw [unnamed] at bears
  cases bears

theorem SameIds.isStale (same : page.SameIds after) (stale : page.IsStale) :
    after.IsStale := by
  obtain ⟨id, slot, found, unnamed⟩ := stale
  exact ⟨id, slot, by rw [same.index, found], by rw [same.ids, unnamed]⟩

theorem isStale_removeAttribute (draws : page.Draws layouts)
    (done : page.removeAttribute id "id" = .ok after) : after.IsStale := by
  rcases known : page.slotOf id with fault | slot
  · rw [removeAttribute, known] at done
    cases done
  · obtain ⟨element, children, found⟩ := isElement_of_slotOf draws known
    rw [removeAttribute, known] at done
    simp only [editAttributes?, found, bind, Except.bind, pure, Except.pure,
      Option.getD_some] at done
    injection done with same
    refine ⟨id, slot, ?_, ?_⟩
    · rw [← same]
      exact (slotOf_eq_ok_iff page id slot).mp known
    · have lookup : after.node? slot = some ⟨.element { element with
          attributes := element.attributes.filter (·.name != "id") },
          children⟩ := by
        rw [← same, node?_setNode (lt_size_of_node? found), if_pos rfl]
      rw [idOf?_of_node? lookup]
      simp [Node.id?, Element.attribute?, List.find?_filter]

/-! ## Runs -/

/-- Whether the index misses the document after an edit. -/
def Edit.leavesStale (page : Page) (stale : Bool) : Edit → Bool
  | .removeAttribute id name => stale || (page.contains id && name == "id")
  | .setAttribute id name _ => stale && !(page.contains id && name == "id")
  | .setInnerHtml id _ => stale && !page.contains id
  | .setValue id _ => stale && !((page.isTextArea id).toOption == some true)
  | .setStyleProperty _ _ _ | .setChecked _ _ => stale

/-- Whether the index misses the document after a run of edits: the last edit
that takes an id away comes after the last one that makes the index anew. -/
def staleAfter (page : Page) (stale : Bool) : List Edit → Bool
  | [] => stale
  | edit :: rest =>
    (page.edit edit).staleAfter (edit.leavesStale page stale) rest

/-- The index agrees with the document, or it is known to miss it. -/
def Tracks (page : Page) (layouts : List Layout) (stale : Bool) : Prop :=
  if stale then page.IsStale else page.IndexAgrees layouts

theorem SameIds.tracks {layoutsAfter : List Layout} {stale : Bool}
    (same : page.SameIds after) (draws : page.Draws layouts)
    (drawsAfter : after.Draws layoutsAfter)
    (tracks : page.Tracks layouts stale) :
    after.Tracks layoutsAfter stale := by
  cases stale with
  | true =>
      exact same.isStale tracks
  | false =>
      exact same.indexAgrees draws drawsAfter tracks

theorem IsReindexed.tracks (reindexed : page.IsReindexed)
    (draws : page.Draws layouts) : page.Tracks layouts false := by
  obtain ⟨before, done⟩ := reindexed
  exact indexAgrees_of_reindex? done draws

theorem leavesStale_of_not_contains {change : Edit}
    (unknown : page.contains change.id = false) (stale : Bool) :
    change.leavesStale page stale = stale := by
  cases change with
  | setAttribute id name value =>
      rw [Edit.id] at unknown
      simp [Edit.leavesStale, unknown]
  | removeAttribute id name =>
      rw [Edit.id] at unknown
      simp [Edit.leavesStale, unknown]
  | setStyleProperty id property value =>
      rfl
  | setChecked id checked =>
      rfl
  | setValue id value =>
      have missing := slotOf_of_not_contains unknown
      have noKind : (page.isTextArea id).toOption = none := by
        rw [Edit.id] at missing
        rw [isTextArea, tagName, find, missing]
        rfl
      simp [Edit.leavesStale, noKind]
  | setInnerHtml id markup =>
      rw [Edit.id] at unknown
      simp [Edit.leavesStale, unknown]

theorem tracks_apply {layoutsAfter : List Layout} {stale : Bool}
    {change : Edit} (draws : page.Draws layouts)
    (tracks : page.Tracks layouts stale)
    (known : page.contains change.id = true)
    (done : change.apply page = .ok after)
    (drawsAfter : after.Draws layoutsAfter) :
    after.Tracks layoutsAfter (change.leavesStale page stale) := by
  cases change with
  | setAttribute id name value =>
      rw [Edit.id] at known
      by_cases isId : name = "id"
      · subst isId
        simpa [Edit.leavesStale, known] using
          (isReindexed_setAttribute draws done).tracks drawsAfter
      · have differs : (name == "id") = false :=
          beq_eq_false_iff_ne.mpr isId
        simpa [Edit.leavesStale, differs] using
          (sameIds_setAttribute isId done).tracks draws drawsAfter tracks
  | removeAttribute id name =>
      rw [Edit.id] at known
      by_cases isId : name = "id"
      · subst isId
        simpa [Edit.leavesStale, known, Tracks] using
          isStale_removeAttribute draws done
      · have differs : (name == "id") = false :=
          beq_eq_false_iff_ne.mpr isId
        simpa [Edit.leavesStale, differs] using
          (sameIds_removeAttribute isId done).tracks draws drawsAfter tracks
  | setStyleProperty id property value =>
      exact (sameIds_setStyleProperty done).tracks draws drawsAfter tracks
  | setChecked id checked =>
      exact (sameIds_setChecked done).tracks draws drawsAfter tracks
  | setValue id value =>
      obtain ⟨textArea, kind, done⟩ := exists_of_bind_eq_ok done
      cases textArea with
      | true =>
          simpa [Edit.leavesStale, kind, Except.toOption] using
            (isReindexed_setInnerHtml draws done).tracks drawsAfter
      | false =>
          have same : page.SameIds after :=
            sameIds_setAttribute (by decide) done
          simpa [Edit.leavesStale, kind, Except.toOption] using
            same.tracks draws drawsAfter tracks
  | setInnerHtml id markup =>
      rw [Edit.id] at known
      simpa [Edit.leavesStale, known] using
        (isReindexed_setInnerHtml draws done).tracks drawsAfter

/-- An edit of an element that the index does not know changes nothing. -/
theorem edit_of_not_contains {change : Edit}
    (unknown : page.contains change.id = false) :
    page.edit change = page := by
  rw [edit, apply_of_not_contains change unknown]

theorem tracks_edit {stale : Bool} (draws : page.Draws layouts)
    (tracks : page.Tracks layouts stale) (change : Edit) :
    ∃ layoutsAfter, (page.edit change).Draws layoutsAfter ∧
      (page.edit change).Tracks layoutsAfter
        (change.leavesStale page stale) := by
  rcases known : page.contains change.id with _ | _
  · refine ⟨layouts, ?_⟩
    rw [edit_of_not_contains known, leavesStale_of_not_contains known]
    exact ⟨draws, tracks⟩
  · obtain ⟨after, done⟩ := exists_apply draws change known
    have same : page.edit change = after := by
      rw [edit, done]
    obtain ⟨layoutsAfter, drawsAfter⟩ := (follows_edit draws change).draws
    refine ⟨layoutsAfter, drawsAfter, ?_⟩
    rw [same] at drawsAfter ⊢
    exact tracks_apply draws tracks known done drawsAfter

theorem tracks_run {stale : Bool} (draws : page.Draws layouts)
    (tracks : page.Tracks layouts stale) (edits : List Edit) :
    ∃ layoutsAfter, (page.run edits).Draws layoutsAfter ∧
      (page.run edits).Tracks layoutsAfter (page.staleAfter stale edits) := by
  induction edits generalizing page layouts stale with
  | nil =>
      exact ⟨layouts, draws, tracks⟩
  | cons change rest inductionHypothesis =>
      obtain ⟨layoutsBetween, drawsBetween, tracksBetween⟩ :=
        tracks_edit draws tracks change
      exact inductionHypothesis drawsBetween tracksBetween

theorem Tracks.indexAgrees_iff {stale : Bool}
    (tracks : page.Tracks layouts stale) (draws : page.Draws layouts) :
    page.IndexAgrees layouts ↔ stale = false := by
  cases stale with
  | true =>
      exact iff_of_false (IsStale.not_indexAgrees tracks draws) (by decide)
  | false =>
      exact iff_of_true tracks rfl

end

theorem parse_isReindexed (html : String) : (parse html).IsReindexed := by
  obtain ⟨layouts, read, -⟩ := parse_draws html
  obtain ⟨filled, -, reindexed⟩ := Option.bind_eq_some_iff.mp read
  exact ⟨filled, reindexed⟩

/-- After any run of edits the index agrees with the document if and only if
no id has been taken away since the index was last made. -/
theorem indexAgrees_run_iff (html : String) (edits : List Edit) :
    ∃ layouts, ((parse html).run edits).Draws layouts ∧
      (((parse html).run edits).IndexAgrees layouts ↔
        (parse html).staleAfter false edits = false) := by
  obtain ⟨layouts, -, draws, -⟩ := parse_draws html
  have tracks := (parse_isReindexed html).tracks draws
  obtain ⟨layoutsAfter, drawsAfter, tracksAfter⟩ :=
    tracks_run draws tracks edits
  exact ⟨layoutsAfter, drawsAfter, tracksAfter.indexAgrees_iff drawsAfter⟩

/-- Taking the only id away leaves an index that still has it. -/
theorem not_indexAgrees_of_removed_id :
    let page := (parse "<p id=x></p>").run [.removeAttribute "x" "id"]
    page.contains "x" = true ∧
      ∀ layouts, page.Draws layouts → ¬ page.IndexAgrees layouts := by
  have found :
      ((parse "<p id=x></p>").run
        [.removeAttribute "x" "id"]).ids.lookup "x" = some 1 := by
    decide +kernel
  have unnamed :
      ((parse "<p id=x></p>").run
        [.removeAttribute "x" "id"]).idOf? 1 = none := by
    decide +kernel
  refine ⟨Option.isSome_iff_exists.mpr ⟨1, found⟩, fun layouts draws => ?_⟩
  exact IsStale.not_indexAgrees ⟨"x", 1, found, unnamed⟩ draws

end KeymapViewer.Page
