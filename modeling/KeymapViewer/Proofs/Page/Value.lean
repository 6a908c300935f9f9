import KeymapViewer.Page.Form
import KeymapViewer.Proofs.Markup.Canonical
import KeymapViewer.Proofs.Page.Fresh

/-!
Values of fields. Whatever text is put into a field, it is the value of the
field from then on: a text area has it as its only text, escaped, and any other
element has it in an attribute.
-/

namespace KeymapViewer

open Markup

namespace Markup

/-! ## Attributes -/

theorem find?_withAttribute (name value : String) (items : List Attribute) :
    (Page.withAttribute name value items).find? (·.name == name) =
      some ⟨name, value⟩ := by
  induction items with
  | nil =>
      simp [Page.withAttribute]
  | cons item rest inductionHypothesis =>
      rw [Page.withAttribute]
      split
      · rename_i named
        simp only [List.find?_cons, beq_iff_eq.mp named, beq_self_eq_true]
      · rename_i differs
        simp only [List.find?_cons, differs, inductionHypothesis]

theorem Element.attribute?_withAttribute (element : Element)
    (name value : String) :
    Element.attribute?
        { element with
          attributes := Page.withAttribute name value element.attributes }
        name = some value := by
  rw [Element.attribute?, find?_withAttribute]
  rfl

/-- Of two values the last one is left. -/
theorem withAttribute_withAttribute (name first second : String)
    (items : List Attribute) :
    Page.withAttribute name second (Page.withAttribute name first items) =
      Page.withAttribute name second items := by
  induction items with
  | nil =>
      simp [Page.withAttribute]
  | cons item rest inductionHypothesis =>
      by_cases named : item.name = name
      · simp [Page.withAttribute, named]
      · simp [Page.withAttribute, named, inductionHypothesis]

/-! ## Texts without tags -/

/-- The content of an element that has nothing but a text. -/
def textForest (text : String) : Forest :=
  if text.isEmpty then [] else [.leaf (.text text)]

theorem parse_of_notMem {text : String} (absent : '<' ∉ text.toList) :
    Forest.parse text = textForest text := by
  by_cases nothing : text = ""
  · subst nothing
    rw [Forest.parse, tokenize, String.toList_empty, tokens_nil]
    rfl
  · have back := (readsBack_text nothing absent).parse
    rw [renderAll, renderAll, List.append_nil] at back
    rw [textForest, if_neg (by simpa using nothing), ← back]
    exact congrArg Forest.parse String.ofList_toList.symm

theorem innerTextAll_textForest (text : String) :
    innerTextAll (textForest text) = text.toList := by
  unfold textForest
  split
  · rename_i nothing
    rw [String.isEmpty_iff.mp nothing]
    rfl
  · exact List.append_nil _

theorem idAt?_textForest (text : String) (position : List Nat) :
    (Tree.node .document (textForest text)).idAt? position = none := by
  cases position with
  | nil =>
      rw [Tree.idAt?, Tree.contentAt?_nil]
      rfl
  | cons index rest =>
      rw [Tree.idAt?, Tree.contentAt?_cons, textForest]
      split
      · rfl
      · rcases index with _ | index
        · rcases rest with _ | ⟨next, rest⟩
          · rfl
          · rfl
        · rfl

/-- The value of a field: the text of a text area, the value attribute of
anything else. -/
def Tree.fieldText : Tree → String
  | .node (.element element) children =>
    if sameName element.tag "textarea" then
      String.ofList (decodeEntities (innerTextAll children))
    else (element.attribute? "value").getD ""
  | _ => ""

end Markup

namespace Page

/-- The markup that a text area has for a text. -/
def areaMarkup (text : String) : String :=
  String.ofList (escapeText text.toList)

theorem open_notMem_areaMarkup (text : String) :
    '<' ∉ (areaMarkup text).toList := by
  rw [areaMarkup, String.toList_ofList]
  exact open_notMem_escapeText text.toList

theorem forest_parse_areaMarkup (text : String) :
    (parse (areaMarkup text)).forest = textForest (areaMarkup text) := by
  rw [forest_parse, parse_of_notMem (open_notMem_areaMarkup text)]

/-! ## Elements after an edit -/

/-- An element is still the first one with its id when its content is new. -/
theorem Substitutes.first?_eq {page after : Page} {slot : Nat}
    {position : List Nat} {markup id : String}
    (substitutes : page.Substitutes after slot position markup)
    (first : page.document.first? id = some position) :
    after.document.first? id = some position := by
  refine Tree.first?_of_idAt?_eq first fun place notAfter => ?_
  rw [Tree.idAt?, Tree.idAt?, substitutes.around place fun inside =>
    eq_of_isPrefix_of_le inside notAfter]

/-- Edits of attributes that keep ids leave all elements where they are
found. -/
theorem first?_of_edit {page after : Page} {position : List Nat}
    {element : Element} {edit : List Attribute → List Attribute}
    (there : page.document.contentAt? position = some (.element element))
    (keeps : KeepsId edit)
    (contents : ∀ place, after.document.contentAt? place =
      if place = position then
        some (.element { element with attributes := edit element.attributes })
      else page.document.contentAt? place) (id : String) :
    after.document.first? id = page.document.first? id := by
  refine Tree.first?_congr (fun place => ?_) id
  rw [Tree.idAt?, Tree.idAt?, contents]
  by_cases here : place = position
  · rw [if_pos here, here, there]
    simp only [Option.bind_some, Content.id?, Element.attribute?,
      keeps element.attributes]
  · rw [if_neg here]

namespace IsFresh

variable {page : Page} {id : String} {position : List Nat}
  {element : Element}

/-- The text of an element is that of the trees below it. -/
theorem textContent_eq (fresh : page.IsFresh)
    (first : page.document.first? id = some position) {tree : Tree}
    (there : page.document.subtree? position = some tree) :
    page.textContent id = .ok (String.ofList (innerTextAll tree.children)) := by
  obtain ⟨slot, leads, placed⟩ := fresh.exists_slotOf_first first
  obtain ⟨layouts, draws, -⟩ := fresh
  rw [draws.slotAt?_root] at placed
  obtain ⟨layout, here, rfl⟩ := Option.map_eq_some_iff.mp placed
  rw [draws.document_eq, Layout.subtree?_tree, here, Option.map_some,
    Option.some.injEq] at there
  have below : page.forestBelow layout.slot = tree.children := by
    rw [draws.forestBelow_eq here, ← there]
    obtain ⟨own, content, children⟩ := layout
    rfl
  simp only [textContent, leads, bind, Except.bind, below]
  rfl

/-! ## Fields -/

theorem isTextArea_eq (fresh : page.IsFresh)
    (first : page.document.first? id = some position)
    (there : page.document.contentAt? position = some (.element element)) :
    page.isTextArea id = .ok (sameName element.tag "textarea") := by
  simp only [isTextArea, tagName, fresh.find_eq first there, bind,
    Except.bind]
  rfl

theorem value_of_not_area (fresh : page.IsFresh)
    (first : page.document.first? id = some position)
    (there : page.document.contentAt? position = some (.element element))
    (noArea : sameName element.tag "textarea" = false) :
    page.value id = .ok ((element.attribute? "value").getD "") := by
  simp only [Page.value, fresh.isTextArea_eq first there, noArea, bind,
    Except.bind, Bool.false_eq_true, ↓reduceIte,
    fresh.attribute?_eq first there]
  rfl

/-- The value of a field is known from its tree. -/
theorem value_eq (fresh : page.IsFresh) {children : List Tree}
    (first : page.document.first? id = some position)
    (there : page.document.subtree? position =
      some (.node (.element element) children)) :
    page.value id =
      .ok (Tree.fieldText (.node (.element element) children)) := by
  have content : page.document.contentAt? position =
      some (.element element) := by
    rw [Tree.contentAt?, there]
    rfl
  cases area : sameName element.tag "textarea" with
  | true =>
      simp only [Page.value, fresh.isTextArea_eq first content, area,
        fresh.textContent_eq first there, bind, Except.bind, ↓reduceIte,
        Tree.fieldText, String.toList_ofList, Tree.children]
      rfl
  | false =>
      rw [fresh.value_of_not_area first content area, Tree.fieldText, area]
      rfl

/-- A text area gets an escaped text as its content, and has the text as its
value. -/
theorem setValue_of_area (fresh : page.IsFresh)
    (first : page.document.first? id = some position)
    (there : page.document.contentAt? position = some (.element element))
    (area : sameName element.tag "textarea" = true) (value : String) :
    ∃ after slot, page.setValue id value = .ok after ∧ after.IsFresh ∧
      page.Substitutes after slot position (areaMarkup value) ∧
      after.value id = .ok value := by
  obtain ⟨after, slot, done, freshAfter, substitutes⟩ :=
    fresh.setInnerHtml first (areaMarkup value)
  have firstAfter := substitutes.first?_eq first
  obtain ⟨⟨content, children⟩, subtree, same⟩ :=
    Option.map_eq_some_iff.mp there
  obtain rfl : content = .element element := same
  have subtreeAfter := Tree.subtree?_changeAt_append subtree
    (Tree.withChildren (parse (areaMarkup value)).forest) []
  rw [List.append_nil, ← substitutes.document, Tree.subtree?_nil,
    forest_parse_areaMarkup, Tree.withChildren] at subtreeAfter
  refine ⟨after, slot, ?_, freshAfter, substitutes, ?_⟩
  · simp only [setValue, fresh.isTextArea_eq first there, area, bind,
      Except.bind, ↓reduceIte]
    exact done
  · rw [freshAfter.value_eq firstAfter subtreeAfter, Tree.fieldText,
      if_pos area, innerTextAll_textForest, areaMarkup, String.toList_ofList,
      decodeEntities_escapeText, String.ofList_toList]

/-- Any other element gets a value attribute. -/
theorem setValue_of_not_area (fresh : page.IsFresh)
    (first : page.document.first? id = some position)
    (there : page.document.contentAt? position = some (.element element))
    (noArea : sameName element.tag "textarea" = false) (value : String) :
    ∃ after, page.setValue id value = .ok after ∧ after.IsFresh ∧
      (∀ place, after.document.contentAt? place =
        if place = position then
          some (.element { element with
            attributes := withAttribute "value" value element.attributes })
        else page.document.contentAt? place) ∧
      after.value id = .ok value := by
  obtain ⟨after, done, freshAfter, contents⟩ :=
    fresh.setAttribute first there (show "value" ≠ "id" by decide) value
  refine ⟨after, ?_, freshAfter, contents, ?_⟩
  · simp only [setValue, fresh.isTextArea_eq first there, noArea, bind,
      Except.bind, Bool.false_eq_true, ↓reduceIte]
    exact done
  · have firstAfter := first?_of_edit there
      (keepsId_withAttribute (show "value" ≠ "id" by decide) value) contents id
    rw [first] at firstAfter
    have thereAfter := contents position
    rw [if_pos rfl] at thereAfter
    rw [freshAfter.value_of_not_area firstAfter thereAfter noArea,
      element.attribute?_withAttribute]
    rfl

/-- A text that is put into a field is the value of the field, and the page is
as it was around the field. -/
theorem setValue (fresh : page.IsFresh)
    (first : page.document.first? id = some position) (value : String) :
    ∃ after, page.setValue id value = .ok after ∧ after.IsFresh ∧
      after.value id = .ok value ∧
      ∀ other, ¬ position <+: other →
        after.document.contentAt? other = page.document.contentAt? other := by
  obtain ⟨element, there, -⟩ :=
    Tree.exists_element_of_idAt? (Tree.isFirst_of_first? _ first).has
  cases area : sameName element.tag "textarea" with
  | true =>
      obtain ⟨after, slot, done, freshAfter, substitutes, stored⟩ :=
        fresh.setValue_of_area first there area value
      exact ⟨after, done, freshAfter, stored, fun other outside =>
        substitutes.around other fun inside => absurd inside outside⟩
  | false =>
      obtain ⟨after, done, freshAfter, contents, stored⟩ :=
        fresh.setValue_of_not_area first there area value
      refine ⟨after, done, freshAfter, stored, fun other outside => ?_⟩
      rw [contents, if_neg]
      rintro rfl
      exact outside List.prefix_rfl

end IsFresh

end Page

end KeymapViewer
