import KeymapViewer.Proofs.Page.Around

/-!
Groups of radio buttons. Checking a button unchecks those buttons of its group
that an id of the index leads to, and nothing else changes; so it is the only
checked button of its group exactly when no other checked one is out of reach of
the index.
-/

namespace KeymapViewer

open Markup

namespace Markup

/-- A radio button of a group. -/
structure Element.IsRadioOf (element : Element) (group : String) : Prop where
  kind : ∃ kind, element.attribute? "type" = some kind ∧
    sameName kind "radio" = true
  name : element.attribute? "name" = some group

theorem radioGroup?_eq_some_iff (element : Element) (group : String) :
    Page.radioGroup? element = some group ↔ element.IsRadioOf group := by
  unfold Page.radioGroup?
  constructor
  · intro grouped
    split at grouped
    · rename_i kind typed
      by_cases radio : sameName kind "radio" = true
      · rw [if_pos radio] at grouped
        exact ⟨⟨kind, typed, radio⟩, grouped⟩
      · rw [if_neg radio] at grouped
        cases grouped
    · cases grouped
  · rintro ⟨⟨kind, typed, radio⟩, named⟩
    rw [typed]
    simp only [radio, if_true, named]

end Markup

namespace Page

/-! ## Attributes that are removed -/

/-- The attributes of each slot once an attribute is removed from the elements
that some ids lead to. -/
def removals (page : Page) (others : List String) (name : String)
    (slot : Nat) : List Attribute → List Attribute :=
  if others.any (page.ids.lookup · == some slot) then
    (·.filter (·.name != name))
  else id

section

variable {page : Page} {others : List String} {id name : String}
  {slot : Nat}

theorem any_lookup_iff :
    others.any (page.ids.lookup · == some slot) = true ↔
      ∃ other ∈ others, page.slotOf other = .ok slot := by
  simp only [List.any_eq_true, beq_iff_eq, slotOf_eq_ok_iff]

/-- One more element loses the attribute before others do. -/
theorem removals_cons (leads : page.slotOf id = .ok slot) :
    (fun other => removals page others name other ∘
        only slot (·.filter (·.name != name)) other) =
      removals page (id :: others) name := by
  have found := (slotOf_eq_ok_iff ..).mp leads
  funext other
  unfold removals
  by_cases here : other = slot
  · subst here
    have first : (id :: others).any (page.ids.lookup · == some other) =
        true := by
      rw [List.any_cons, found, beq_self_eq_true, Bool.true_or]
    rw [if_pos first, only, if_pos rfl]
    by_cases again : others.any (page.ids.lookup · == some other) = true
    · rw [if_pos again]
      funext attributes
      simp
    · rw [if_neg again, Function.id_comp]
  · have elsewhere : (page.ids.lookup id == some other) = false := by
      rw [found, beq_eq_false_iff_ne]
      intro same
      exact here (Option.some.inj same).symm
    rw [only, if_neg here, Function.comp_id, List.any_cons, elsewhere,
      Bool.false_or]

namespace IsSound

theorem removeAttribute (sound : page.IsSound)
    (leads : page.slotOf id = .ok slot) (name : String) :
    let after := page.editSlots (only slot (·.filter (·.name != name)))
    page.removeAttribute id name = .ok after ∧ after.IsSound := by
  obtain ⟨layouts, draws⟩ := sound.draws
  obtain ⟨element, below, found⟩ := isElement_of_slotOf draws leads
  have done : page.removeAttribute id name =
      .ok (page.editSlots (only slot (·.filter (·.name != name)))) := by
    simp [Page.removeAttribute, leads, editAttributes?_eq found, bind,
      Except.bind, pure, Except.pure]
  obtain ⟨layoutsAfter, drawsAfter⟩ :=
    (keeps_removeAttribute draws done).draws
  exact ⟨done, sound.of_ids_eq drawsAfter rfl⟩

theorem removeAttributes (sound : page.IsSound)
    (known : ∀ other ∈ others, page.contains other = true)
    (name : String) :
    let after := page.editSlots (removals page others name)
    others.foldlM (Page.removeAttribute · · name) page = .ok after ∧
      after.IsSound := by
  induction others generalizing page with
  | nil =>
      have same : page.editSlots (removals page [] name) = page :=
        editSlots_id page
      rw [same]
      exact ⟨rfl, sound⟩
  | cons first rest inductionHypothesis =>
      obtain ⟨slot, leads⟩ :=
        exists_slotOf (known first (List.mem_cons_self ..))
      obtain ⟨removed, soundBetween⟩ := sound.removeAttribute leads name
      have later := inductionHypothesis soundBetween fun other member =>
        known other (List.mem_cons_of_mem _ member)
      rw [editSlots_comp] at later
      rw [← removals_cons leads, List.foldlM_cons, removed]
      exact later

end IsSound

/-- What an element is found by is in the index. -/
theorem mem_elementIds_of_find {element : Element}
    (found : page.find id = .ok element) : id ∈ page.elementIds := by
  obtain ⟨slot, leads, -⟩ := exists_of_bind_eq_ok found
  have lookup := (slotOf_eq_ok_iff ..).mp leads
  obtain ⟨before, later, split, -⟩ := List.lookup_eq_some_iff.mp lookup
  rw [elementIds, split]
  simp

theorem isChecked_of_find {element : Element}
    (found : page.find id = .ok element) :
    page.isChecked id = .ok (element.attribute? "checked").isSome := by
  rw [isChecked, attribute?, found]
  rfl

theorem mem_groupMembers_iff {other group : String} :
    other ∈ page.groupMembers id group ↔
      other ≠ id ∧ ∃ element, page.find other = .ok element ∧
        element.IsRadioOf group := by
  rw [groupMembers, List.mem_filter, Bool.and_eq_true, bne_iff_ne]
  cases found : page.find other with
  | error fault =>
      simp
  | ok element =>
      simp only [beq_iff_eq, radioGroup?_eq_some_iff, Except.ok.injEq,
        exists_eq_left', mem_elementIds_of_find found, true_and]

end

/-! ## Groups -/

/-- A radio button of a group at a position. -/
structure HasButton (page : Page) (group : String) (place : List Nat)
    (button : Element) : Prop where
  there : page.document.contentAt? place = some (.element button)
  grouped : button.IsRadioOf group

/-- Some id of the index leads to a position. -/
def Lists (page : Page) (place : List Nat) : Prop :=
  ∃ id, page.Addresses id place

/-- No button of a group is checked but the one at a position. -/
def IsExclusive (page : Page) (group : String) (position : List Nat) : Prop :=
  ∀ place button, place ≠ position → page.HasButton group place button →
    button.attribute? "checked" = none

/-- A page before and after a radio button is checked. -/
structure ChecksRadio (page : Page) (id group : String)
    (position : List Nat) (after : Page) : Prop where
  done : page.setChecked id true = .ok after
  ids : after.ids = page.ids
  checked : after.isChecked id = .ok true
  own : ∃ element,
    page.document.contentAt? position = some (.element element) ∧
    after.document.contentAt? position = some (.element { element with
      attributes := withAttribute "checked" "" element.attributes })
  unchecked : ∀ place button, place ≠ position →
    page.HasButton group place button → page.Lists place →
    after.document.contentAt? place =
      some (.element (button.without ["checked"]))
  kept : ∀ place, place ≠ position →
    (∀ button, page.HasButton group place button → ¬ page.Lists place) →
    after.document.contentAt? place = page.document.contentAt? place

namespace ChecksRadio

variable {page after : Page} {id group : String} {position : List Nat}

/-- The group is exclusive afterwards if and only if the index lists every
other button of it that is checked. -/
theorem isExclusive_iff
    (checks : page.ChecksRadio id group position after) :
    after.IsExclusive group position ↔
      ∀ place button, place ≠ position →
        page.HasButton group place button →
        button.attribute? "checked" ≠ none → page.Lists place := by
  constructor
  · intro exclusive place button apart has checked
    by_contra unlisted
    have same := checks.kept place apart fun _ _ => unlisted
    apply checked
    exact exclusive place button apart ⟨same.trans has.there, has.grouped⟩
  · intro listed place button apart has
    by_cases member : ∃ before, page.HasButton group place before ∧
        page.Lists place
    · obtain ⟨before, hasBefore, lists⟩ := member
      have there := checks.unchecked place before apart hasBefore lists
      rw [has.there, Option.some.injEq, Content.element.injEq] at there
      rw [there]
      exact before.attribute?_without_self "checked"
    · have same := checks.kept place apart fun before hasBefore lists =>
        member ⟨before, hasBefore, lists⟩
      have hasBefore : page.HasButton group place button :=
        ⟨same.symm.trans has.there, has.grouped⟩
      by_contra checked
      exact member
        ⟨button, hasBefore, listed place button apart hasBefore checked⟩

/-- Nothing changes but what is checked. -/
theorem sameAround (checks : page.ChecksRadio id group position after)
    {names : List String} (listed : "checked" ∈ names) (place : List Nat) :
    SameAround names place page after := by
  intro other _
  by_cases here : other = position
  · obtain ⟨element, there, thereAfter⟩ := checks.own
    rw [here, there, thereAfter, Option.map_some, Option.map_some,
      (editsOnly_withAttribute listed "").without element]
  · by_cases member : ∃ button, page.HasButton group other button ∧
        page.Lists other
    · obtain ⟨button, has, lists⟩ := member
      have fewer : ["checked"] ⊆ names :=
        List.cons_subset.mpr ⟨listed, List.nil_subset names⟩
      rw [checks.unchecked other button here has lists, has.there,
        Option.map_some, Option.map_some]
      exact congrArg some
        ((Content.element button).without_of_subset fewer)
    · rw [checks.kept other here fun button has lists =>
        member ⟨button, has, lists⟩]

end ChecksRadio

section

variable {page : Page} {others : List String} {position : List Nat}

theorem removals_of_forall_ne {slot : Nat} {name : String}
    (elsewhere : ∀ other ∈ others, page.slotOf other ≠ .ok slot) :
    removals page others name slot = id := by
  apply if_neg
  rw [any_lookup_iff]
  rintro ⟨other, member, leads⟩
  exact elsewhere other member leads

theorem contentAt?_removals_of_addresses (sound : page.IsSound)
    {other : String} {element : Element}
    (soundAfter : (page.editSlots (removals page others "checked")).IsSound)
    (member : other ∈ others) (addresses : page.Addresses other position)
    (there : page.document.contentAt? position = some (.element element)) :
    (page.editSlots
        (removals page others "checked")).document.contentAt? position =
      some (.element (element.without ["checked"])) := by
  obtain ⟨slot, leads, placed⟩ := addresses
  obtain ⟨layouts, draws⟩ := sound.draws
  obtain ⟨layoutsAfter, drawsAfter⟩ := soundAfter.draws
  have removed : removals page others "checked" slot =
      (·.filter (·.name != "checked")) := by
    rw [removals, if_pos (any_lookup_iff.mpr ⟨other, member, leads⟩)]
  rw [draws.contentAt?_editSlots drawsAfter, editsAt, placed,
    Option.map_some, Option.getD_some, removed, there,
    element.without_singleton]
  rfl

theorem contentAt?_removals_of_not_addresses (sound : page.IsSound)
    (soundAfter : (page.editSlots (removals page others "checked")).IsSound)
    (elsewhere : ∀ other ∈ others, ¬ page.Addresses other position) :
    (page.editSlots
        (removals page others "checked")).document.contentAt? position =
      page.document.contentAt? position := by
  obtain ⟨layouts, draws⟩ := sound.draws
  obtain ⟨layoutsAfter, drawsAfter⟩ := soundAfter.draws
  have unchanged :
      page.editsAt (removals page others "checked") position = id := by
    unfold editsAt
    cases placed : page.slotAt? root position with
    | none =>
        rfl
    | some slot =>
        apply removals_of_forall_ne
        intro other member leads
        exact elsewhere other member ⟨slot, leads, placed⟩
  rw [draws.contentAt?_editSlots drawsAfter, unchanged]
  cases page.document.contentAt? position with
  | none =>
      rfl
  | some content =>
      rw [Option.map_some, content.editAttributes_id]

end

namespace IsSound

variable {page : Page} {id group : String} {position : List Nat}
  {element : Element}

/-- Checking a radio button is a change of the elements of its group that the
index lists. -/
theorem exists_checksRadio (sound : page.IsSound)
    (found : page.find id = .ok element)
    (grouped : element.IsRadioOf group) :
    ∃ position after, page.Addresses id position ∧
      page.document.contentAt? position = some (.element element) ∧
      page.ChecksRadio id group position after := by
  have knownId := contains_of_mem_elementIds (mem_elementIds_of_find found)
  obtain ⟨position, addresses⟩ := sound.exists_addresses knownId
  have there := (sound.find_eq_ok_iff addresses).mp found
  have known : ∀ next ∈ page.groupMembers id group,
      page.contains next = true := by
    intro next member
    exact contains_of_mem_elementIds (List.mem_filter.mp member).1
  obtain ⟨clearing, soundCleared⟩ := sound.removeAttributes known "checked"
  -- The button itself is no other button of its group.
  have own : ∀ next ∈ page.groupMembers id group,
      ¬ page.Addresses next position := by
    intro next member reaches
    exact (mem_groupMembers_iff.mp member).1
      (sound.eq_of_addresses reaches addresses)
  have thereCleared :=
    contentAt?_removals_of_not_addresses sound soundCleared own
  rw [there] at thereCleared
  obtain ⟨after, checking, soundAfter, sameIds, addressesAfter, contents⟩ :=
    soundCleared.exists_setAttribute (addresses_editSlots.mpr addresses)
      thereCleared (show "checked" ≠ "id" by decide) ""
  have thereAfter := contents position
  rw [if_pos rfl] at thereAfter
  refine ⟨position, after, addresses, there, ?done, sameIds, ?checked,
    ⟨element, there, thereAfter⟩, ?unchecked, ?kept⟩
  case done =>
    simp only [setChecked, ↓reduceIte, found,
      (radioGroup?_eq_some_iff ..).mpr grouped, bind, Except.bind, clearing]
    exact checking
  case checked =>
    rw [isChecked_of_find
        ((soundAfter.find_eq_ok_iff addressesAfter).mpr thereAfter),
      element.attribute?_withAttribute]
    rfl
  case unchecked =>
    intro place button apart has lists
    obtain ⟨other, reaches⟩ := lists
    have differs : other ≠ id := by
      rintro rfl
      exact apart (sound.addresses_unique reaches addresses)
    have member : other ∈ page.groupMembers id group :=
      mem_groupMembers_iff.mpr ⟨differs, button,
        (sound.find_eq_ok_iff reaches).mpr has.there, has.grouped⟩
    rw [contents, if_neg apart]
    exact contentAt?_removals_of_addresses sound soundCleared member reaches
      has.there
  case kept =>
    intro place apart unlisted
    rw [contents, if_neg apart]
    apply contentAt?_removals_of_not_addresses sound soundCleared
    intro other member reaches
    obtain ⟨-, button, foundOther, sameGroup⟩ := mem_groupMembers_iff.mp member
    have thereOther := (sound.find_eq_ok_iff reaches).mp foundOther
    exact unlisted button ⟨thereOther, sameGroup⟩ ⟨other, reaches⟩

end IsSound

/-- An index that agrees with its document lists the elements that come first
with an id. -/
theorem IsFresh.lists_iff {page : Page} {place : List Nat}
    (fresh : page.IsFresh) :
    page.Lists place ↔ ∃ id, page.document.first? id = some place := by
  simp only [Lists, fresh.addresses_iff]

/-- On a page with an index that agrees with its document, checking a radio
button unchecks every other of its group that an id leads to. -/
theorem IsFresh.setChecked_radio {page : Page} {id group : String}
    {position : List Nat} {element : Element} {names : List String}
    (fresh : page.IsFresh) (first : page.document.first? id = some position)
    (there : page.document.contentAt? position = some (.element element))
    (grouped : radioGroup? element = some group)
    (listed : "checked" ∈ names) :
    ∃ after, page.setChecked id true = .ok after ∧ after.IsFresh ∧
      (∀ place, SameAround names place page after) ∧
      after.isChecked id = .ok true ∧
      ∀ other place button, other ≠ id →
        page.document.first? other = some place →
        page.document.contentAt? place = some (.element button) →
        radioGroup? button = some group →
        after.isChecked other = .ok false := by
  obtain ⟨place, after, reached, -, checks⟩ := fresh.isSound.exists_checksRadio
    (fresh.find_eq first there) ((radioGroup?_eq_some_iff ..).mp grouped)
  obtain ⟨layouts, draws⟩ := fresh.isSound.draws
  have freshAfter := fresh.of_sameIds (sameIds_setChecked checks.done)
    (keeps_setChecked draws checks.done).draws
  refine ⟨after, checks.done, freshAfter, checks.sameAround listed,
    checks.checked, ?_⟩
  intro other next button differs firstOther thereOther sameGroup
  have apart : next ≠ place := by
    rintro rfl
    exact differs (Tree.eq_of_first?_eq firstOther
      ((fresh.addresses_iff ..).mp reached))
  have thereAfter := checks.unchecked next button apart
    ⟨thereOther, (radioGroup?_eq_some_iff ..).mp sameGroup⟩
    (fresh.lists_iff.mpr ⟨other, firstOther⟩)
  have sameIds := SameAround.first?_eq_of_forall
    (checks.sameAround (List.mem_singleton_self "checked")) (by decide)
  have firstAfter := (sameIds other).trans firstOther
  rw [isChecked_of_find (freshAfter.find_eq firstAfter thereAfter),
    button.attribute?_without_self]
  rfl

/-! ## Pages after edits -/

/-- Whatever was done to the page of a text, checking a radio button leaves no
other of its group checked if and only if the index lists every other one that
was. -/
theorem setChecked_isExclusive_iff (html : String) (edits : List Edit)
    {id group : String} {element : Element}
    (found : ((parse html).run edits).find id = .ok element)
    (grouped : element.IsRadioOf group) :
    let page := (parse html).run edits
    ∃ position after, page.Addresses id position ∧
      page.document.contentAt? position = some (.element element) ∧
      page.ChecksRadio id group position after ∧
      (after.IsExclusive group position ↔
        ∀ place button, place ≠ position →
          page.HasButton group place button →
          button.attribute? "checked" ≠ none → page.Lists place) := by
  obtain ⟨position, after, addresses, there, checks⟩ :=
    (isSound_run html edits).exists_checksRadio found grouped
  exact ⟨position, after, addresses, there, checks, checks.isExclusive_iff⟩

-- The type may be in capitals, and the page may have been edited before.
theorem setChecked_isExclusive_iff_capitals :
    let page := (parse "<i id=x></i>").run
      [.setInnerHtml "x" "<input id=a type=RADIO name=g>"]
    let element : Element := ⟨"input",
      [⟨"id", "a"⟩, ⟨"type", "RADIO"⟩, ⟨"name", "g"⟩], false⟩
    page.find "a" = .ok element ∧ element.IsRadioOf "g" ∧
      ∃ position after, page.ChecksRadio "a" "g" position after := by
  have found : ((parse "<i id=x></i>").run
      [.setInnerHtml "x" "<input id=a type=RADIO name=g>"]).find "a" =
      .ok ⟨"input",
        [⟨"id", "a"⟩, ⟨"type", "RADIO"⟩, ⟨"name", "g"⟩], false⟩ := by
    decide +kernel
  have grouped : Element.IsRadioOf ⟨"input",
      [⟨"id", "a"⟩, ⟨"type", "RADIO"⟩, ⟨"name", "g"⟩], false⟩ "g" :=
    (radioGroup?_eq_some_iff ..).mp (by decide +kernel)
  obtain ⟨position, after, -, -, checks, -⟩ :=
    setChecked_isExclusive_iff "<i id=x></i>"
      [.setInnerHtml "x" "<input id=a type=RADIO name=g>"] found grouped
  exact ⟨found, grouped, position, after, checks⟩

/-- A button without an id stays checked beside the one that is checked. -/
theorem not_isExclusive_of_unnamed_button :
    let page :=
      parse "<input id=a type=radio name=g><input type=radio name=g checked>"
    ∃ element after, page.find "a" = .ok element ∧ element.IsRadioOf "g" ∧
      page.Addresses "a" [0] ∧ page.setChecked "a" true = .ok after ∧
      ¬ after.IsExclusive "g" [0] := by
  let page :=
    parse "<input id=a type=radio name=g><input type=radio name=g checked>"
  let button : Element := ⟨"input",
    [⟨"id", "a"⟩, ⟨"type", "radio"⟩, ⟨"name", "g"⟩], false⟩
  let other : Element := ⟨"input",
    [⟨"type", "radio"⟩, ⟨"name", "g"⟩, ⟨"checked", ""⟩], false⟩
  have found : page.find "a" = .ok button := by
    decide +kernel
  have stays : (page.setChecked "a" true).map (·.document.contentAt? [1]) =
      .ok (some (.element other)) := by
    decide +kernel
  have grouped : button.IsRadioOf "g" :=
    (radioGroup?_eq_some_iff ..).mp (by decide +kernel)
  have groupedOther : other.IsRadioOf "g" :=
    (radioGroup?_eq_some_iff ..).mp (by decide +kernel)
  have addresses : page.Addresses "a" [0] :=
    ⟨1, by decide +kernel, by decide +kernel⟩
  cases done : page.setChecked "a" true with
  | error fault =>
      rw [done] at stays
      cases stays
  | ok after =>
      rw [done] at stays
      refine ⟨button, after, found, grouped, addresses, done, ?_⟩
      intro exclusive
      have unchecked := exclusive [1] other (by decide)
        ⟨Except.ok.inj stays, groupedOther⟩
      exact absurd unchecked (by decide)

end Page

end KeymapViewer
