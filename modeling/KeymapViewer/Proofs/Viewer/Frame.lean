import KeymapViewer.Proofs.Viewer.Layers

/-!
The built-in page around the drawn keymap. Whatever is drawn, the page differs
from the template below the keymap element and in the state of the spinner
only; both elements come before everything that is drawn, so no drawing can
take their ids over, and a layer is never found anywhere but in the drawing.
-/

namespace KeymapViewer

open Markup

namespace Page

/-! ## The template -/

def templateDocument : Tree := .node .document (Forest.parse template)

def spinnerPlace : List Nat := [2, 3, 3]

def keymapPlace : List Nat := [2, 3, 5]

/-- The spinner of the template in one of its states. -/
def spinnerElement (state : Spinner) : Element :=
  ⟨"div", [⟨"id", "spinny"⟩, ⟨"style", "display: " ++ state.display⟩], false⟩

theorem document_parse_template :
    (parse template).document = templateDocument :=
  document_parse template

theorem toList_template :
    template.toList =
      templateLines.flatMap fun line => line.toList ++ ['\n'] := by
  rw [template, String.toList_join, List.flatMap_map]
  refine List.flatMap_congr fun line _ => ?_
  rw [String.toList_append]
  rfl

/-- Where the elements of the template are that the viewer works with, and
that no element has the id of a layer but below the keymap element. -/
theorem template_places :
    templateDocument.first? "keymap" = some keymapPlace ∧
      templateDocument.first? "spinny" = some spinnerPlace ∧
      templateDocument.contentAt? spinnerPlace =
        some (.element (spinnerElement .idle)) ∧
      (templateDocument.first?
        (ViewerSettings.default.layerId 0)).isSome = true ∧
      (templateDocument.subtree? keymapPlace).isSome = true ∧
      ∀ layer ∈ List.range ViewerSettings.default.maxLayers,
        (templateDocument.changeAt (Tree.withChildren []) keymapPlace).first?
          (ViewerSettings.default.layerId layer) = none := by
  rw [templateDocument, Forest.parse, tokenize, toList_template,
    templateLines]
  simp only [List.flatMap_cons, List.flatMap_nil]
  -- The characters of a long literal are costly to evaluate.
  repeat rw [String.toList_ofList]
  decide +kernel

theorem contentAt?_spinnerPlace :
    templateDocument.contentAt? spinnerPlace =
      some (.element (spinnerElement .idle)) :=
  template_places.2.2.1

/-- A position that is in the drawing. -/
def InDrawing (position : List Nat) : Prop :=
  keymapPlace <+: position ∧ position ≠ keymapPlace

theorem not_inDrawing_of_lt {position : List Nat}
    (before : position < keymapPlace) : ¬ InDrawing position :=
  fun inside => not_lt_of_isPrefix inside.1 before

theorem spinnerPlace_lt : spinnerPlace < keymapPlace := by
  decide

theorem not_inDrawing_spinnerPlace : ¬ InDrawing spinnerPlace :=
  not_inDrawing_of_lt spinnerPlace_lt

/-- Outside of the drawing no element has the id of a layer. -/
theorem template_idAt?_ne_layerId {layer : Nat}
    (known : layer < ViewerSettings.default.maxLayers) {position : List Nat}
    (outside : ¬ InDrawing position) :
    templateDocument.idAt? position ≠
      some (ViewerSettings.default.layerId layer) := by
  obtain ⟨-, -, -, -, inside, noLayers⟩ := template_places
  obtain ⟨keymap, there⟩ := Option.isSome_iff_exists.mp inside
  have missing := Tree.idAt?_ne_of_first?_eq_none _
    (noLayers layer (List.mem_range.mpr known)) position
  rwa [Tree.idAt?, Tree.contentAt?_withChildren there [] fun below =>
    not_not.mp fun other => outside ⟨below, other⟩] at missing

/-! ## Framed pages -/

/-- A page that is the template but for the drawing and for the state of the
spinner. -/
structure Frames (page : Page) (state : Spinner) : Prop where
  fresh : page.IsFresh
  spinner : page.document.contentAt? spinnerPlace =
    some (.element (spinnerElement state))
  around : ∀ position, position ≠ spinnerPlace → ¬ InDrawing position →
    page.document.contentAt? position =
      templateDocument.contentAt? position

theorem contains_first_layer :
    (parse template).contains (ViewerSettings.default.layerId 0) = true := by
  rw [(parse_isFresh template).contains_eq, document_parse_template]
  exact template_places.2.2.2.1

theorem frames_template : (parse template).Frames .idle where
  fresh := parse_isFresh template
  spinner := by
    rw [document_parse_template, contentAt?_spinnerPlace]
  around position _ _ := by
    rw [document_parse_template]

namespace Frames

variable {page other : Page} {state otherState : Spinner}

/-- The ids outside of the drawing are those of the template. -/
theorem idAt?_eq (frames : page.Frames state) {position : List Nat}
    (outside : ¬ InDrawing position) :
    page.document.idAt? position = templateDocument.idAt? position := by
  by_cases atSpinner : position = spinnerPlace
  · rw [atSpinner, Tree.idAt?, Tree.idAt?, frames.spinner,
      contentAt?_spinnerPlace]
    rfl
  · rw [Tree.idAt?, Tree.idAt?, frames.around position atSpinner outside]

/-- An element that comes before the drawing is found as in the template. -/
theorem first?_eq (frames : page.Frames state) {id : String}
    {position : List Nat}
    (first : templateDocument.first? id = some position)
    (before : ¬ keymapPlace < position) :
    page.document.first? id = some position := by
  refine Tree.first?_of_idAt?_eq first fun place upTo => ?_
  exact frames.idAt?_eq fun inside =>
    inside.2 (eq_of_isPrefix_of_le inside.1 (upTo.trans (not_lt.mp before)))

theorem first?_keymap (frames : page.Frames state) :
    page.document.first? "keymap" = some keymapPlace :=
  frames.first?_eq template_places.1 (lt_irrefl _)

theorem first?_spinner (frames : page.Frames state) :
    page.document.first? "spinny" = some spinnerPlace :=
  frames.first?_eq template_places.2.1 (lt_asymm spinnerPlace_lt)

theorem contains_keymap (frames : page.Frames state) :
    page.contains "keymap" = true := by
  rw [frames.fresh.contains_eq, frames.first?_keymap]
  rfl

/-- Layers are found in the drawing. -/
theorem inDrawing_of_layer (frames : page.Frames state) {layer : Nat}
    (known : layer < ViewerSettings.default.maxLayers) {position : List Nat}
    (has : page.document.idAt? position =
      some (ViewerSettings.default.layerId layer)) :
    InDrawing position := by
  by_contra outside
  rw [frames.idAt?_eq outside] at has
  exact template_idAt?_ne_layerId known outside has

/-! ## Edits -/

theorem style_spinnerElement (state next : Spinner) :
    withAttribute "style"
        (((Style.parse ("display: " ++ state.display)).set "display"
          next.display).render)
        (spinnerElement state).attributes =
      (spinnerElement next).attributes := by
  cases state with
  | idle =>
      cases next with
      | idle =>
          decide +kernel
      | loading =>
          decide +kernel
  | loading =>
      cases next with
      | idle =>
          decide +kernel
      | loading =>
          decide +kernel

theorem setSpinner (frames : page.Frames state) (next : Spinner) :
    ∃ after,
      page.setStyleProperty "spinny" "display" next.display = .ok after ∧
      after.Frames next ∧
      ∀ position, position ≠ spinnerPlace →
        after.document.contentAt? position =
          page.document.contentAt? position := by
  obtain ⟨after, done, fresh, contents⟩ := frames.fresh.setAttribute
    frames.first?_spinner frames.spinner
    (show "style" ≠ "id" by decide)
    (((Style.parse ("display: " ++ state.display)).set "display"
      next.display).render)
  have same (position : List Nat) (elsewhere : position ≠ spinnerPlace) :
      after.document.contentAt? position =
        page.document.contentAt? position := by
    rw [contents, if_neg elsewhere]
  refine ⟨after, ?_, ⟨fresh, ?_, fun position elsewhere outside => ?_⟩, same⟩
  · rw [frames.fresh.setStyleProperty_eq frames.first?_spinner
      frames.spinner]
    exact done
  · rw [contents, if_pos rfl, style_spinnerElement]
    rfl
  · rw [same position elsewhere, frames.around position elsewhere outside]

/-- What is drawn into the keymap element is all that is in the drawing. -/
theorem setInnerHtml (frames : page.Frames state) (markup : String) :
    ∃ after, page.setInnerHtml "keymap" markup = .ok after ∧
      after.Frames state ∧
      ∀ rest, rest ≠ [] →
        after.document.contentAt? (keymapPlace ++ rest) =
          (parse markup).document.contentAt? rest := by
  obtain ⟨after, slot, done, fresh, substitutes⟩ :=
    frames.fresh.setInnerHtml frames.first?_keymap markup
  have same {position : List Nat} (outside : ¬ InDrawing position) :
      after.document.contentAt? position =
        page.document.contentAt? position :=
    substitutes.around position fun below =>
      not_not.mp fun differs => outside ⟨below, differs⟩
  refine ⟨after, done, ⟨fresh, ?_, fun position elsewhere outside => ?_⟩,
    substitutes.below⟩
  · rw [same not_inDrawing_spinnerPlace, frames.spinner]
  · rw [same outside, frames.around position elsewhere outside]

end Frames

/-! ## Marking layers -/

/-- Marks of layers are in the drawing. -/
theorem Frames.of_marks {page after : Page} {state : Spinner}
    {marked : List Nat} (frames : page.Frames state)
    (marks : Viewer.Marks .default marked
      (List.range ViewerSettings.default.maxLayers) page after) :
    after.Frames state := by
  have same {position : List Nat} (outside : ¬ InDrawing position) :
      after.document.contentAt? position =
        page.document.contentAt? position := by
    apply marks.others position
    intro layer member first
    apply outside
    exact frames.inDrawing_of_layer (List.mem_range.mp member)
      (Tree.isFirst_of_first? _ first).has
  refine ⟨marks.fresh, ?_, fun position elsewhere outside => ?_⟩
  · rw [same not_inDrawing_spinnerPlace, frames.spinner]
  · rw [same outside, frames.around position elsewhere outside]

def SameDrawing (page other : Page) : Prop :=
  ∀ position, InDrawing position →
    page.document.contentAt? position = other.document.contentAt? position

/-- Two framed pages with the same drawing. -/
structure Agree (page : Page) (state : Spinner) (other : Page)
    (otherState : Spinner) : Prop where
  frames : page.Frames state
  otherFrames : other.Frames otherState
  drawing : page.SameDrawing other

namespace Agree

variable {page other : Page} {state otherState : Spinner}

theorem refl (frames : page.Frames state) : page.Agree state page state :=
  ⟨frames, frames, fun _ _ => rfl⟩

theorem trans {last : Page} {lastState : Spinner}
    (agree : page.Agree state other otherState)
    (further : other.Agree otherState last lastState) :
    page.Agree state last lastState :=
  ⟨agree.frames, further.otherFrames, fun position inside =>
    (agree.drawing position inside).trans (further.drawing position inside)⟩

theorem first?_eq (agree : page.Agree state other otherState) (id : String) :
    other.document.first? id = page.document.first? id := by
  refine Tree.first?_congr (fun position => ?_) id
  by_cases inside : InDrawing position
  · rw [Tree.idAt?, Tree.idAt?, agree.drawing position inside]
  · rw [agree.frames.idAt?_eq inside, agree.otherFrames.idAt?_eq inside]

/-- Layers are marked alike on pages with the same drawing. -/
theorem markLayers (agree : page.Agree state other otherState)
    (marked : List Nat) :
    ∃ after otherAfter,
      Viewer.markLayers .default marked page = .ok after ∧
      Viewer.markLayers .default marked other = .ok otherAfter ∧
      after.Agree state otherAfter otherState := by
  obtain ⟨after, done, marks⟩ :=
    Viewer.exists_marks agree.frames.fresh .default marked
  obtain ⟨otherAfter, otherDone, otherMarks⟩ :=
    Viewer.exists_marks agree.otherFrames.fresh .default marked
  refine ⟨after, otherAfter, done, otherDone, agree.frames.of_marks marks,
    agree.otherFrames.of_marks otherMarks, ?_⟩
  intro position inside
  by_cases addressed : ∃ layer ∈ List.range ViewerSettings.default.maxLayers,
      page.document.first? (ViewerSettings.default.layerId layer) =
        some position
  · obtain ⟨layer, member, first⟩ := addressed
    obtain ⟨element, there, -⟩ :=
      Tree.exists_element_of_idAt? (Tree.isFirst_of_first? _ first).has
    have otherThere := there
    rw [agree.drawing position inside] at otherThere
    rw [marks.layer layer member position element first there,
      otherMarks.layer layer member position element
        ((agree.first?_eq _).trans first) otherThere]
  · have unaddressed : ∀ layer ∈ List.range ViewerSettings.default.maxLayers,
        page.document.first? (ViewerSettings.default.layerId layer) ≠
          some position :=
      fun layer member first => addressed ⟨layer, member, first⟩
    rw [marks.others position unaddressed, otherMarks.others position,
      agree.drawing position inside]
    intro layer member
    rw [agree.first?_eq]
    exact unaddressed layer member

/-- Framed pages with the same drawing and the same spinner are the same
document. -/
theorem document_eq (agree : page.Agree state other state) :
    page.document = other.document := by
  refine Tree.eq_of_contentAt? _ _ fun position => ?_
  by_cases inside : InDrawing position
  · exact agree.drawing position inside
  · by_cases atSpinner : position = spinnerPlace
    · rw [atSpinner, agree.frames.spinner, agree.otherFrames.spinner]
    · rw [agree.frames.around position atSpinner inside,
        agree.otherFrames.around position atSpinner inside]

end Agree

end Page

end KeymapViewer
