import KeymapViewer.Proofs.Page.Style

/-!
What edits leave alone. New content of an element leaves everything around the
element as it is, and an edit of attributes leaves the attributes of other
names; so elements that come first in the document are found where they were.
-/

namespace KeymapViewer

open Markup

namespace Markup

/-! ## Attributes of other names -/

/-- An element but for its attributes of some names. -/
def Element.without (names : List String) (element : Element) : Element :=
  { element with
    attributes := element.attributes.filter (!names.contains ·.name) }

def Content.without (names : List String) : Content → Content
  | .element tagged => .element (tagged.without names)
  | content => content

theorem Element.without_singleton (name : String) (element : Element) :
    element.without [name] =
      { element with
        attributes := element.attributes.filter (·.name != name) } := by
  rw [without]
  congr 2
  funext item
  by_cases named : item.name = name
  · simp [named]
  · simp [named]

/-- Names that are left out anyway can be left out before. -/
theorem Element.without_of_subset {fewer names : List String}
    (listed : fewer ⊆ names) (element : Element) :
    (element.without fewer).without names = element.without names := by
  rw [without, without, without, List.filter_filter]
  congr 2
  funext item
  by_cases named : item.name ∈ fewer
  · simp [named, listed named]
  · simp [named]

theorem Content.without_of_subset {fewer names : List String}
    (listed : fewer ⊆ names) (content : Content) :
    (content.without fewer).without names = content.without names := by
  cases content with
  | element tagged =>
      exact congrArg Content.element (tagged.without_of_subset listed)
  | _ =>
      rfl

theorem Element.attribute?_without_self (name : String) (element : Element) :
    (element.without [name]).attribute? name = none := by
  rw [attribute?, Option.map_eq_none_iff, List.find?_eq_none]
  intro item member
  have other := (List.mem_filter.mp member).2
  simpa using other

theorem find?_without {names : List String} {name : String}
    (other : name ∉ names) (attributes : List Attribute) :
    (attributes.filter (!names.contains ·.name)).find? (·.name == name) =
      attributes.find? (·.name == name) := by
  rw [List.find?_filter]
  congr 1
  funext item
  by_cases named : item.name = name
  · simp [named, other]
  · simp [named]

theorem Element.attribute?_without {names : List String} {name : String}
    (other : name ∉ names) (element : Element) :
    (element.without names).attribute? name = element.attribute? name := by
  rw [attribute?, without, find?_without other]
  rfl

theorem Content.id?_without {names : List String} (other : "id" ∉ names)
    (content : Content) : (content.without names).id? = content.id? := by
  cases content with
  | element tagged =>
      exact tagged.attribute?_without other
  | _ =>
      rfl

/-- Elements with the same tag and, but for some names, the same
attributes. -/
def Element.AgreesBut (names : List String)
    (element other : Element) : Prop :=
  element.tag = other.tag ∧
    ∀ name ∉ names, element.attribute? name = other.attribute? name

theorem exists_element_of_without {names : List String}
    {content : Option Content} {element : Element}
    (alike : content.map (Content.without names) =
      (some (.element element)).map (Content.without names)) :
    ∃ other, content = some (.element other) ∧
      other.AgreesBut names element := by
  rw [Option.map_some] at alike
  obtain ⟨found, rfl, same⟩ := Option.map_eq_some_iff.mp alike
  cases found with
  | element other =>
      have same : other.without names = element.without names :=
        Content.element.inj same
      have tags : (other.without names).tag = (element.without names).tag :=
        congrArg Element.tag same
      refine ⟨other, rfl, tags, fun name unlisted => ?_⟩
      rw [← other.attribute?_without unlisted, same,
        element.attribute?_without unlisted]
  | _ =>
      cases same

theorem Tree.idAt?_eq_of_without {names : List String} {tree other : Tree}
    {position : List Nat} (unlisted : "id" ∉ names)
    (alike : (tree.contentAt? position).map (Content.without names) =
      (other.contentAt? position).map (Content.without names)) :
    tree.idAt? position = other.idAt? position := by
  have ids (content : Option Content) :
      (content.map (Content.without names)).bind Content.id? =
        content.bind Content.id? := by
    rw [Option.bind_map]
    congr 1
    exact funext (Content.id?_without unlisted)
  rw [Tree.idAt?, ← ids, alike, ids, Tree.idAt?]

/-- An edit of attributes of some names. -/
def EditsOnly (names : List String)
    (edit : List Attribute → List Attribute) : Prop :=
  ∀ attributes, (edit attributes).filter (!names.contains ·.name) =
    attributes.filter (!names.contains ·.name)

theorem editsOnly_withAttribute {names : List String} {name : String}
    (listed : name ∈ names) (value : String) :
    EditsOnly names (Page.withAttribute name value) := by
  intro attributes
  induction attributes with
  | nil =>
      simp [Page.withAttribute, listed]
  | cons item rest inductionHypothesis =>
      rw [Page.withAttribute]
      split
      · rename_i named
        have gone : item.name ∈ names := beq_iff_eq.mp named ▸ listed
        simp [gone]
      · rw [List.filter_cons, List.filter_cons, inductionHypothesis]

/-- Such an edit leaves the element as it is but for those names. -/
theorem EditsOnly.without {names : List String}
    {edit : List Attribute → List Attribute} (only : EditsOnly names edit)
    (element : Element) :
    Content.without names
        (.element { element with attributes := edit element.attributes }) =
      Content.without names (.element element) := by
  rw [Content.without, Content.without, Element.without, Element.without,
    only element.attributes]

end Markup

namespace Page

/-! ## Pages that agree around an element -/

/-- Two pages with the same nodes, but for what is below one of them and for
attributes of some names. -/
def SameAround (names : List String) (place : List Nat)
    (page after : Page) : Prop :=
  ∀ position, (place <+: position → position = place) →
    (after.document.contentAt? position).map (Content.without names) =
      (page.document.contentAt? position).map (Content.without names)

namespace SameAround

variable {names : List String} {place position : List Nat}
  {page between after : Page}

theorem refl (page : Page) : SameAround names place page page :=
  fun _ _ => rfl

theorem trans (first : SameAround names place page between)
    (second : SameAround names place between after) :
    SameAround names place page after :=
  fun position outside =>
    (second position outside).trans (first position outside)

/-- Fewer names say more. -/
theorem mono {more : List String} (listed : names ⊆ more)
    (same : SameAround names place page after) :
    SameAround more place page after := by
  intro position outside
  have kept := congrArg (Option.map (Content.without more))
    (same position outside)
  rwa [Option.map_map, Option.map_map,
    show Content.without more ∘ Content.without names = Content.without more
      from funext (Content.without_of_subset listed)] at kept

/-- An element is still there, with the same attributes of other names. -/
theorem element (same : SameAround names place page after)
    (outside : place <+: position → position = place) {element : Element}
    (there : page.document.contentAt? position = some (.element element)) :
    ∃ other, after.document.contentAt? position = some (.element other) ∧
      other.AgreesBut names element := by
  have kept := same position outside
  rw [there] at kept
  exact exists_element_of_without kept

theorem idAt?_eq (same : SameAround names place page after)
    (unlisted : "id" ∉ names)
    (outside : place <+: position → position = place) :
    after.document.idAt? position = page.document.idAt? position :=
  Tree.idAt?_eq_of_without unlisted (same position outside)

/-- An edit that keeps ids on all of the page leaves all elements where they
are found. -/
theorem first?_eq_of_forall (same : ∀ place, SameAround names place page after)
    (unlisted : "id" ∉ names) (id : String) :
    after.document.first? id = page.document.first? id :=
  Tree.first?_congr
    (fun position => (same position).idAt?_eq unlisted fun _ => rfl) id

/-- What is found by its id, and does not come after the place, is found where
it was. -/
theorem first?_eq (same : SameAround names place page after)
    (unlisted : "id" ∉ names) {id : String}
    (first : page.document.first? id = some position)
    (notAfter : position ≤ place) :
    after.document.first? id = some position := by
  refine Tree.first?_of_idAt?_eq first fun other upTo => ?_
  exact same.idAt?_eq unlisted fun inside =>
    eq_of_isPrefix_of_le inside (upTo.trans notAfter)

end SameAround

/-- An edit of the attributes of one element keeps those of other names, on
all of the page. -/
theorem sameAround_of_edit {names : List String} {page after : Page}
    {position : List Nat} {element : Element}
    {edit : List Attribute → List Attribute}
    (there : page.document.contentAt? position = some (.element element))
    (only : EditsOnly names edit)
    (contents : ∀ place, after.document.contentAt? place =
      if place = position then
        some (.element { element with attributes := edit element.attributes })
      else page.document.contentAt? place) (place : List Nat) :
    SameAround names place page after := by
  intro other _
  rw [contents]
  by_cases here : other = position
  · rw [if_pos here, here, there, Option.map_some, Option.map_some,
      only.without element]
  · rw [if_neg here]

theorem Substitutes.sameAround {page after : Page} {slot : Nat}
    {position : List Nat} {markup : String}
    (substitutes : page.Substitutes after slot position markup)
    (names : List String) : SameAround names position page after := by
  intro other outside
  rw [substitutes.around other outside]

/-! ## Edits of fresh pages -/

namespace IsFresh

variable {page : Page} {id name : String} {position : List Nat}
  {element : Element} {names : List String}

theorem contains_of_first? (fresh : page.IsFresh)
    (first : page.document.first? id = some position) :
    page.contains id = true := by
  rw [fresh.contains_eq, first]
  rfl

/-- The element that an id leads to. -/
theorem exists_first? (fresh : page.IsFresh)
    (known : page.contains id = true) :
    ∃ position element, page.document.first? id = some position ∧
      page.document.contentAt? position = some (.element element) := by
  rw [fresh.contains_eq] at known
  obtain ⟨position, first⟩ := Option.isSome_iff_exists.mp known
  obtain ⟨element, there, -⟩ :=
    Tree.exists_element_of_idAt? (Tree.isFirst_of_first? _ first).has
  exact ⟨position, element, first, there⟩

theorem setAttribute_sameAround (fresh : page.IsFresh)
    (known : page.contains id = true) (listed : name ∈ names)
    (unlisted : "id" ∉ names) (value : String) :
    ∃ after, page.setAttribute id name value = .ok after ∧ after.IsFresh ∧
      ∀ place, SameAround names place page after := by
  obtain ⟨position, element, first, there⟩ := fresh.exists_first? known
  have other : name ≠ "id" := fun same => unlisted (same ▸ listed)
  obtain ⟨after, done, freshAfter, contents⟩ :=
    fresh.setAttribute first there other value
  exact ⟨after, done, freshAfter, sameAround_of_edit there
    (editsOnly_withAttribute listed value) contents⟩

theorem setStyleProperty (fresh : page.IsFresh)
    (known : page.contains id = true) (listed : "style" ∈ names)
    (unlisted : "id" ∉ names) (property value : String) :
    ∃ after, page.setStyleProperty id property value = .ok after ∧
      after.IsFresh ∧ ∀ place, SameAround names place page after := by
  obtain ⟨position, element, first, there⟩ := fresh.exists_first? known
  rw [fresh.setStyleProperty_eq first there]
  exact fresh.setAttribute_sameAround known listed unlisted _

/-- Markup that is put into an element changes nothing around it. -/
theorem setInnerHtml_sameAround (fresh : page.IsFresh)
    (first : page.document.first? id = some position) (markup : String)
    (names : List String) :
    ∃ after, page.setInnerHtml id markup = .ok after ∧ after.IsFresh ∧
      SameAround names position page after := by
  obtain ⟨after, slot, done, freshAfter, substitutes⟩ :=
    fresh.setInnerHtml first markup
  exact ⟨after, done, freshAfter, substitutes.sameAround names⟩

/-! ## Elements after edits around -/

theorem attribute?_of_sameAround (fresh : page.IsFresh) {after : Page}
    (freshAfter : after.IsFresh) {place : List Nat}
    (same : SameAround names place page after) (unlisted : "id" ∉ names)
    (first : page.document.first? id = some position)
    (notAfter : position ≤ place) (other : name ∉ names) :
    after.attribute? id name = page.attribute? id name := by
  obtain ⟨element, there, -⟩ :=
    Tree.exists_element_of_idAt? (Tree.isFirst_of_first? _ first).has
  obtain ⟨kept, thereAfter, agrees⟩ := same.element
    (fun below => eq_of_isPrefix_of_le below notAfter) there
  rw [fresh.attribute?_eq first there, freshAfter.attribute?_eq
    (same.first?_eq unlisted first notAfter) thereAfter, agrees.2 name other]

theorem attribute?_of_not_found (fresh : page.IsFresh)
    (missing : page.document.first? id = none) :
    page.attribute? id name = .error (.missingElement id) := by
  have unknown : page.contains id = false := by
    rw [fresh.contains_eq, missing]
    rfl
  exact attribute?_of_not_contains unknown name

/-- An edit on all of the page leaves attributes of other names alone, also of
elements that are missing. -/
theorem attribute?_of_forall (fresh : page.IsFresh) {after : Page}
    (freshAfter : after.IsFresh)
    (same : ∀ place, SameAround names place page after)
    (unlisted : "id" ∉ names) (other : name ∉ names) :
    after.attribute? id name = page.attribute? id name := by
  cases first : page.document.first? id with
  | none =>
      have firstAfter := SameAround.first?_eq_of_forall same unlisted id
      rw [fresh.attribute?_of_not_found first,
        freshAfter.attribute?_of_not_found (firstAfter.trans first)]
  | some position =>
      exact fresh.attribute?_of_sameAround freshAfter (same position) unlisted
        first le_rfl other

theorem value_of_sameAround (fresh : page.IsFresh) {after : Page}
    (freshAfter : after.IsFresh) {place : List Nat}
    (same : SameAround names place page after) (unlisted : "id" ∉ names)
    (first : page.document.first? id = some position)
    (there : page.document.contentAt? position = some (.element element))
    (noArea : sameName element.tag "textarea" = false)
    (notAfter : position ≤ place) (other : "value" ∉ names) :
    after.value id = page.value id := by
  obtain ⟨kept, thereAfter, tags, attributes⟩ := same.element
    (fun below => eq_of_isPrefix_of_le below notAfter) there
  rw [fresh.value_of_not_area first there noArea,
    freshAfter.value_of_not_area (same.first?_eq unlisted first notAfter)
      thereAfter (tags ▸ noArea), attributes "value" other]

end IsFresh

end Page

end KeymapViewer
