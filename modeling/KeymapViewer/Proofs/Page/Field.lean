import KeymapViewer.Proofs.Markup.Change
import KeymapViewer.Proofs.Page.Around

/-!
Fields and their values. What is put into a field changes the document in one
place, is the value of the field from then on, and still is when a canonical
page is saved and loaded again.
-/

namespace KeymapViewer

open Markup

namespace Markup

namespace Tree

/-- A field with another value. -/
def fill (value : String) : Tree → Tree
  | .node (.element element) children =>
    if sameName element.tag "textarea" then
      .node (.element element) (textForest (Page.areaMarkup value))
    else
      .node (.element { element with
        attributes := Page.withAttribute "value" value element.attributes })
        children
  | tree => tree

/-- A tree as it is read back: an element with content has an end tag. -/
def withEndTag : Tree → Tree
  | .node (.element element) children =>
    .node (.element { element with
      selfClosing := element.selfClosing && children.isEmpty }) children
  | tree => tree

theorem fieldText_withEndTag (tree : Tree) :
    tree.withEndTag.fieldText = tree.fieldText := by
  obtain ⟨content, children⟩ := tree
  cases content with
  | document | element element | text text | comment text
      | declaration text =>
      rfl

theorem render_withEndTag (tree : Tree) :
    tree.withEndTag.render = tree.render := by
  obtain ⟨content, children⟩ := tree
  cases content with
  | element element =>
      rw [withEndTag, render, render, Element.render, Element.render,
        Bool.and_assoc, Bool.and_self]
      rfl
  | document | text text | comment text | declaration text =>
      rfl

section

variable (element : Element) (children : List Tree) (value : String)

/-- What is put into a field is its value. -/
theorem fieldText_fill :
    (fill value (.node (.element element) children)).fieldText = value := by
  rw [fill]
  by_cases area : sameName element.tag "textarea" = true
  · rw [if_pos area, fieldText, if_pos area, innerTextAll_textForest,
      Page.areaMarkup, String.toList_ofList, decodeEntities_escapeText,
      String.ofList_toList]
  · rw [if_neg area, fieldText, if_neg area,
      element.attribute?_withAttribute]
    rfl

/-- A field stays an element. -/
theorem exists_fill :
    ∃ filled below, (fill value
      (.node (.element element) children)).withEndTag =
        .node (.element filled) below := by
  rw [fill]
  by_cases area : sameName element.tag "textarea" = true
  · rw [if_pos area]
    exact ⟨_, _, rfl⟩
  · rw [if_neg area]
    exact ⟨_, _, rfl⟩

/-- It keeps its id. -/
theorem id?_fill :
    (fill value (.node (.element element) children)).withEndTag.content.id? =
      (Content.element element).id? := by
  rw [fill]
  by_cases area : sameName element.tag "textarea" = true
  · rw [if_pos area]
    rfl
  · rw [if_neg area]
    exact congrArg (Option.map Attribute.value)
      (Page.keepsId_withAttribute (show "value" ≠ "id" by decide) value
        element.attributes)

end

end Tree

/-! ## Canonical fields -/

theorem isRawText_of_area {name : String}
    (area : sameName name "textarea" = true) :
    isRawText name = true ∧ isVoid name = false := by
  have raw : isRawText name = true :=
    List.any_eq_true.mpr ⟨"textarea", by decide, area⟩
  refine ⟨raw, ?_⟩
  by_contra void
  rw [Bool.not_eq_false] at void
  rw [not_isRawText_of_isVoid void] at raw
  cases raw

theorem isCanonicalRawText_areaMarkup (name value : String) :
    isCanonicalRawText name (textForest (Page.areaMarkup value)) = true := by
  unfold textForest
  by_cases nothing : (Page.areaMarkup value).isEmpty = true
  · rw [if_pos nothing]
    rfl
  · rw [if_neg nothing, Tree.leaf, isCanonicalRawText,
      occurs_beginsEndTag_of_notMem (Page.open_notMem_areaMarkup value)]
    simpa using nothing

/-- Whether attributes are canonical does not depend on their values. -/
theorem all_isCanonical_withAttribute {name : String}
    (named : Attribute.isCanonical ⟨name, ""⟩ = true) (value : String)
    {attributes : List Attribute}
    (canonical : attributes.all (·.isCanonical) = true) :
    (Page.withAttribute name value attributes).all (·.isCanonical) =
      true := by
  induction attributes with
  | nil =>
      have whole : Attribute.isCanonical ⟨name, value⟩ = true := named
      rw [Page.withAttribute, List.all_cons, whole]
      rfl
  | cons item rest inductionHypothesis =>
      rw [List.all_cons, Bool.and_eq_true] at canonical
      rw [Page.withAttribute]
      split
      · rw [List.all_cons, canonical.2, Bool.and_true]
        exact canonical.1
      · rw [List.all_cons, canonical.1, inductionHypothesis canonical.2]
        rfl

/-- A canonical field that gets a value is read back as a canonical one. -/
theorem Tree.isCanonical_fill {element : Element} {children : List Tree}
    (canonical : (Tree.node (.element element) children).isCanonical = true)
    (value : String) :
    (fill value (.node (.element element) children)).withEndTag.isCanonical =
      true := by
  rw [isCanonical, Bool.and_eq_true] at canonical
  obtain ⟨named, inside⟩ := canonical
  rw [fill]
  by_cases area : sameName element.tag "textarea" = true
  · obtain ⟨raw, noVoid⟩ := isRawText_of_area area
    rw [if_pos area, withEndTag, isCanonical, Bool.and_eq_true]
    refine ⟨named, ?_⟩
    by_cases alone : Element.isAlone { element with
        selfClosing := element.selfClosing &&
          (textForest (Page.areaMarkup value)).isEmpty } = true
    · rw [if_pos alone]
      rw [Element.isAlone, noVoid, Bool.or_false, Bool.and_eq_true] at alone
      exact alone.2
    · rw [if_neg alone, if_pos raw]
      exact isCanonicalRawText_areaMarkup element.tag value
  · have closing : (element.selfClosing && children.isEmpty) =
        element.selfClosing := by
      cases selfClosing : element.selfClosing with
      | false =>
          rfl
      | true =>
          rw [Element.isAlone, selfClosing, Bool.true_or, if_pos rfl] at inside
          rw [inside, Bool.and_self]
    rw [Element.isCanonical, Bool.and_eq_true] at named
    rw [if_neg area, withEndTag, isCanonical, Bool.and_eq_true]
    simp only [closing]
    refine ⟨?_, inside⟩
    rw [Element.isCanonical, Bool.and_eq_true]
    exact ⟨named.1,
      all_isCanonical_withAttribute (by decide) value named.2⟩

end Markup

namespace Page

/-- A page before and after the field at a position gets a value. -/
structure SetsValue (page : Page) (id value : String) (position : List Nat)
    (after : Page) : Prop where
  done : page.setValue id value = .ok after
  get : after.value id = .ok value
  fresh : after.IsFresh
  /-- Nothing changes but the content of a text area, or the value attribute of
  anything else. -/
  document : after.document = page.document.changeAt (.fill value) position
  around : ∀ place, ¬ position <+: place →
    after.document.contentAt? place = page.document.contentAt? place
  /-- The value is there again when the page is saved and loaded. -/
  reloads : areCanonical page.forest = true →
    ∃ again, parse? after.toHtml = some again ∧ again.value id = .ok value

namespace IsFresh

variable {page : Page} {id : String} {position : List Nat}
  {element : Element} {children : List Tree}

theorem exists_subtree? (fresh : page.IsFresh)
    (known : page.contains id = true) :
    ∃ position element children,
      page.document.first? id = some position ∧
      page.document.subtree? position =
        some (.node (.element element) children) := by
  obtain ⟨position, element, first, there⟩ := fresh.exists_first? known
  obtain ⟨⟨content, children⟩, found, same⟩ := Option.map_eq_some_iff.mp there
  obtain rfl : content = .element element := same
  exact ⟨position, element, children, first, found⟩

/-- A field that gets a value is filled where it is. -/
theorem setValue_document (fresh : page.IsFresh)
    (first : page.document.first? id = some position)
    (there : page.document.subtree? position =
      some (.node (.element element) children)) (value : String) :
    ∃ after, page.setValue id value = .ok after ∧ after.IsFresh ∧
      after.document = page.document.changeAt (.fill value) position ∧
      after.value id = .ok value := by
  have content : page.document.contentAt? position =
      some (.element element) := by
    rw [Tree.contentAt?, there]
    rfl
  cases area : sameName element.tag "textarea" with
  | true =>
      obtain ⟨after, slot, done, freshAfter, substitutes, stored⟩ :=
        fresh.setValue_of_area first content area value
      refine ⟨after, done, freshAfter, ?_, stored⟩
      rw [substitutes.document]
      apply Tree.changeAt_congr there
      rw [Tree.fill, if_pos area, Tree.withChildren,
        forest_parse_areaMarkup]
  | false =>
      obtain ⟨after, done, freshAfter, contents, stored⟩ :=
        fresh.setValue_of_not_area first content area value
      refine ⟨after, done, freshAfter, ?_, stored⟩
      have filled : Tree.fill value (.node (.element element) children) =
          .node (.element { element with
            attributes := withAttribute "value" value element.attributes })
            children := by
        rw [Tree.fill, area]
        rfl
      apply Tree.eq_of_contentAt?
      intro place
      rw [contents, Tree.contentAt?_changeAt_of_children there
        (by rw [filled]; rfl), filled]
      rfl

end IsFresh

/-- Once a field of a canonical page is filled, the page that is loaded from
what is saved has the value again. -/
theorem value_parse_toHtml {page after : Page} {id value : String}
    {position : List Nat} {element : Element} {children : List Tree}
    (canonical : areCanonical page.forest = true)
    (first : page.document.first? id = some position)
    (there : page.document.subtree? position =
      some (.node (.element element) children))
    (document : after.document =
      page.document.changeAt (.fill value) position) :
    (parse after.toHtml).value id = .ok value := by
  obtain ⟨filled, below, field⟩ := Tree.exists_fill element children value
  -- What is saved is the markup of a canonical document.
  obtain ⟨closed, canonicalClosed, same⟩ :
      ∃ closed, areCanonical closed = true ∧
        page.document.changeAt (fun tree => (tree.fill value).withEndTag)
          position = .node .document closed :=
    areCanonical_changeAt canonical there nofun rfl (by rw [field]; rfl)
      fun named => Tree.isCanonical_fill named value
  have written : after.toHtml = String.ofList (renderAll closed) :=
    congrArg String.ofList <| calc
      renderAll after.forest
        = (page.document.changeAt (.fill value) position).render := by
          rw [← document]
          rfl
      _ = Tree.render (.node .document closed) := by
          rw [← same]
          exact Tree.render_changeAt there (Tree.render_withEndTag _).symm
  have reloaded : (parse after.toHtml).document =
      page.document.changeAt (fun tree => (tree.fill value).withEndTag)
        position := by
    rw [document_parse, written,
      (readsBack_of_areCanonical closed canonicalClosed).parse, same]
  have fresh := parse_isFresh after.toHtml
  have firstAgain : (parse after.toHtml).document.first? id =
      some position := by
    rw [reloaded]
    exact Tree.first?_changeAt first there
      (Tree.id?_fill element children value)
  have thereAgain : (parse after.toHtml).document.subtree? position =
      some (.node (.element filled) below) := by
    rw [reloaded, Tree.subtree?_changeAt there, field]
  rw [fresh.value_eq firstAgain thereAgain, ← field,
    Tree.fieldText_withEndTag, Tree.fieldText_fill]

/-- Whatever text is put into a field of a page with an index that agrees with
its document, it is the value of the field, also after the page was saved and
loaded if it was canonical. -/
theorem exists_setsValue {page : Page} (fresh : page.IsFresh) {id : String}
    (known : page.contains id = true) (value : String) :
    ∃ position after, page.document.first? id = some position ∧
      page.SetsValue id value position after := by
  obtain ⟨position, element, children, first, there⟩ :=
    fresh.exists_subtree? known
  obtain ⟨after, done, freshAfter, document, stored⟩ :=
    fresh.setValue_document first there value
  refine ⟨position, after, first, done, stored, freshAfter, document, ?around,
    ?reloads⟩
  case around =>
    intro place outside
    rw [document, Tree.contentAt?_changeAt _ _ outside]
  case reloads =>
    intro canonical
    obtain ⟨layouts, read, -⟩ := parse_draws after.toHtml
    exact ⟨parse after.toHtml, read,
      value_parse_toHtml canonical first there document⟩

-- The end tag comes with the text: before, the area closed itself.
theorem exists_setsValue_area :
    let page := parse "<p id=q>old</p><textarea id=t/><input id=f>"
    page.IsFresh ∧ page.contains "t" = true ∧
      areCanonical page.forest = true ∧
      ∃ after again, page.setValue "t" "</textarea>&lt;" = .ok after ∧
        after.value "t" = .ok "</textarea>&lt;" ∧
        parse? after.toHtml = some again ∧
        again.value "t" = .ok "</textarea>&lt;" := by
  have known :
      (parse "<p id=q>old</p><textarea id=t/><input id=f>").contains "t" =
        true := by
    decide +kernel
  have canonical : areCanonical
      (parse "<p id=q>old</p><textarea id=t/><input id=f>").forest = true := by
    decide +kernel
  obtain ⟨position, after, -, sets⟩ :=
    exists_setsValue (parse_isFresh _) known "</textarea>&lt;"
  obtain ⟨again, loaded, stored⟩ := sets.reloads canonical
  exact ⟨parse_isFresh _, known, canonical, after, again, sets.done, sets.get,
    loaded, stored⟩

end Page

end KeymapViewer
