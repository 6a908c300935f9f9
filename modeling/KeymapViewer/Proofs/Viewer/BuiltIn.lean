import KeymapViewer.Proofs.Page.Radio
import KeymapViewer.Proofs.Viewer.Around

/-!
The built-in page with its controls, whatever was done with it. Drawings, tabs
and fields change the attributes of some names, what is drawn, and the text in
the text field; so the controls are still where they are in the template, and
still what they are there.
-/

namespace KeymapViewer

open Markup

namespace Page

/-! ## The controls of the template -/

/-- An element that the viewer works with. -/
structure Control where
  id : String
  place : List Nat
  element : Element
  deriving DecidableEq

def textTab : Control :=
  ⟨"texttab", [2, 3, 1, 1], ⟨"input", [⟨"type", "radio"⟩,
    ⟨"name", "source"⟩, ⟨"id", "texttab"⟩, ⟨"checked", ""⟩], false⟩⟩

def urlTab : Control :=
  ⟨"urltab", [2, 3, 1, 5], ⟨"input", [⟨"type", "radio"⟩,
    ⟨"name", "source"⟩, ⟨"id", "urltab"⟩], false⟩⟩

def textField : Control :=
  ⟨"kmtext", [2, 3, 1, 9], ⟨"textarea", [⟨"id", "kmtext"⟩,
    ⟨"name", "kmtext"⟩, ⟨"rows", "12"⟩, ⟨"cols", "80"⟩], false⟩⟩

def urlName : Control :=
  ⟨"urlname", [2, 3, 1, 11], ⟨"input", [⟨"type", "text"⟩,
    ⟨"id", "urlname"⟩, ⟨"name", "fileurl"⟩, ⟨"value", ""⟩], false⟩⟩

def spinner : Control :=
  ⟨"spinny", spinnerPlace, spinnerElement .idle⟩

def keymapField : Control :=
  ⟨"keymap", keymapPlace, ⟨"div", [⟨"id", "keymap"⟩], false⟩⟩

def controls : List Control :=
  [textTab, urlTab, textField, urlName, spinner, keymapField]

/-- A position in the text that is in the text field. -/
def InField (position : List Nat) : Prop :=
  textField.place <+: position ∧ position ≠ textField.place

theorem template_controls :
    (∀ control ∈ controls,
      templateDocument.first? control.id = some control.place ∧
        templateDocument.contentAt? control.place =
          some (.element control.element)) ∧
      (templateDocument.subtree? textField.place).map
        (·.children.isEmpty) = some true := by
  rw [templateDocument, Forest.parse, tokenize, toList_template,
    templateLines]
  simp only [List.flatMap_cons, List.flatMap_nil]
  -- The characters of a long literal are costly to evaluate.
  repeat rw [String.toList_ofList]
  decide +kernel

theorem le_keymapPlace :
    ∀ control ∈ controls, control.place ≤ keymapPlace := by
  decide

theorem not_inField_of_mem {control : Control} (member : control ∈ controls) :
    ¬ InField control.place := by
  have apart : ∀ control ∈ controls,
      textField.place <+: control.place → control.place = textField.place := by
    decide
  exact fun inside => inside.2 (apart control member inside.1)

theorem not_inDrawing_of_mem {control : Control}
    (member : control ∈ controls) : ¬ InDrawing control.place := by
  have apart : ∀ control ∈ controls,
      keymapPlace <+: control.place → control.place = keymapPlace := by
    decide
  exact fun inside => inside.2 (apart control member inside.1)

theorem not_inField_of_inDrawing {position : List Nat}
    (inside : InDrawing position) : ¬ InField position := by
  rintro ⟨below, -⟩
  have apart : ¬ textField.place <+: keymapPlace ∧
      ¬ keymapPlace <+: textField.place := by
    decide
  exact (List.prefix_or_prefix_of_prefix below inside.1).elim apart.1 apart.2

theorem template_contentAt?_of_inField {position : List Nat}
    (inside : InField position) :
    templateDocument.contentAt? position = none := by
  obtain ⟨⟨rest, rfl⟩, differs⟩ := inside
  obtain ⟨tree, there, childless⟩ :=
    Option.map_eq_some_iff.mp template_controls.2
  obtain ⟨content, children⟩ := tree
  obtain rfl : children = [] := List.isEmpty_iff.mp childless
  cases rest with
  | nil =>
      exact absurd (List.append_nil _) differs
  | cons index rest =>
      rw [Tree.contentAt?, Tree.subtree?_append, there]
      rfl

/-! ## Built-in pages -/

/-- The attributes that the actions of a viewer set. -/
def actionNames : List String := ["checked", "value", "style", "visibility"]

theorem drawingNames_subset : Viewer.drawingNames ⊆ actionNames := by
  decide

/-- A page that is the template but for attributes that actions set, for the
drawing, and for the text in the text field, where there are no ids. -/
structure IsBuiltIn (page : Page) : Prop where
  fresh : page.IsFresh
  around : ∀ position, ¬ InDrawing position → ¬ InField position →
    (page.document.contentAt? position).map (Content.without actionNames) =
      (templateDocument.contentAt? position).map
        (Content.without actionNames)
  field : ∀ position, InField position →
    page.document.idAt? position = none

namespace IsBuiltIn

variable {page after : Page}

/-- The controls come first under their ids, and are what they are in the
template. -/
theorem control (builtIn : page.IsBuiltIn) (control : Control)
    (member : control ∈ controls) :
    page.document.first? control.id = some control.place ∧
      ∃ element,
        page.document.contentAt? control.place = some (.element element) ∧
        element.AgreesBut actionNames control.element := by
  obtain ⟨first, there⟩ := template_controls.1 control member
  constructor
  · refine Tree.first?_of_idAt?_eq first fun place upTo => ?_
    by_cases inside : InField place
    · rw [builtIn.field place inside, Tree.idAt?,
        template_contentAt?_of_inField inside]
      rfl
    · have outside : ¬ InDrawing place := fun drawn => drawn.2
        (eq_of_isPrefix_of_le drawn.1
          (upTo.trans (le_keymapPlace control member)))
      exact Tree.idAt?_eq_of_without (show "id" ∉ actionNames by decide)
        (builtIn.around place outside inside)
  · refine exists_element_of_without ?_
    rw [builtIn.around _ (not_inDrawing_of_mem member)
      (not_inField_of_mem member), there]

theorem contains (builtIn : page.IsBuiltIn) (control : Control)
    (member : control ∈ controls) : page.contains control.id = true :=
  builtIn.fresh.contains_of_first? (builtIn.control control member).1

/-- Edits around the keymap element that set no other attributes leave a
built-in page. -/
theorem of_sameAround (builtIn : page.IsBuiltIn) {names : List String}
    (fresh : after.IsFresh) (listed : names ⊆ actionNames)
    (same : SameAround names keymapPlace page after) : after.IsBuiltIn where
  fresh := fresh
  around position outside outsideField := by
    rw [same.mono listed position fun below =>
      not_not.mp fun differs => outside ⟨below, differs⟩]
    exact builtIn.around position outside outsideField
  field position inside := by
    have unlisted : "id" ∉ names := fun listedId =>
      absurd (listed listedId) (by decide)
    rw [same.idAt?_eq unlisted fun below => ?_,
      builtIn.field position inside]
    exact not_not.mp fun differs =>
      not_inField_of_inDrawing ⟨below, differs⟩ inside

/-- A text in the text field leaves a built-in page. -/
theorem setText (builtIn : page.IsBuiltIn) (text : String) :
    ∃ after, page.setValue textField.id text = .ok after ∧
      after.IsBuiltIn ∧ after.value textField.id = .ok text := by
  obtain ⟨first, element, there, tags, -⟩ :=
    builtIn.control textField (by decide)
  have area : sameName element.tag "textarea" = true := by
    rw [tags]
    decide
  obtain ⟨after, slot, stored, fresh, substitutes, value⟩ :=
    builtIn.fresh.setValue_of_area first there area text
  refine ⟨after, stored, ⟨fresh, fun position outside outsideField => ?_,
    fun position inside => ?_⟩, value⟩
  · rw [substitutes.around position fun below =>
      not_not.mp fun differs => outsideField ⟨below, differs⟩]
    exact builtIn.around position outside outsideField
  · obtain ⟨⟨rest, rfl⟩, differs⟩ := inside
    have nonempty : rest ≠ [] := by
      rintro rfl
      exact differs (List.append_nil _)
    have inner := idAt?_textForest (areaMarkup text) rest
    rw [← forest_parse_areaMarkup] at inner
    rw [Tree.idAt?, substitutes.below rest nonempty]
    exact inner

end IsBuiltIn

theorem Frames.isBuiltIn {page : Page} {state : Spinner}
    (frames : page.Frames state) : page.IsBuiltIn where
  fresh := frames.fresh
  around position outside _ := by
    by_cases atSpinner : position = spinnerPlace
    · rw [atSpinner, frames.spinner, contentAt?_spinnerPlace]
      cases state with
      | idle =>
          rfl
      | loading =>
          rfl
    · rw [frames.around position atSpinner outside]
  field position inside := by
    have outside : ¬ InDrawing position := fun drawn =>
      not_inField_of_inDrawing drawn inside
    rw [frames.idAt?_eq outside, Tree.idAt?,
      template_contentAt?_of_inField inside]
    rfl

/-! ## The address on a page -/

/-- A page with an address: its tab is the one that is checked. -/
structure ShowsUrl (page : Page) (url : String) : Prop where
  urlTab : page.isChecked urlTab.id = .ok true
  textTab : page.isChecked textTab.id = .ok false
  name : page.value urlName.id = .ok url

theorem radioGroup?_congr {names : List String} {element other : Element}
    (agrees : element.AgreesBut names other) (type : "type" ∉ names)
    (name : "name" ∉ names) : radioGroup? element = radioGroup? other := by
  rw [radioGroup?, agrees.2 _ type, agrees.2 _ name, ← radioGroup?]

namespace IsBuiltIn

variable {page after : Page} {names : List String}

theorem isChecked_of_sameAround (builtIn : page.IsBuiltIn)
    (fresh : after.IsFresh) (same : SameAround names keymapPlace page after)
    (unlistedId : "id" ∉ names) (unlisted : "checked" ∉ names)
    {control : Control} (member : control ∈ controls) :
    after.isChecked control.id = page.isChecked control.id := by
  rw [isChecked, isChecked, builtIn.fresh.attribute?_of_sameAround fresh same
    unlistedId (builtIn.control control member).1
    (le_keymapPlace control member) unlisted]

theorem urlName_noArea (builtIn : page.IsBuiltIn) :
    ∃ element,
      page.document.contentAt? urlName.place = some (.element element) ∧
      sameName element.tag "textarea" = false := by
  obtain ⟨-, element, there, tags, -⟩ :=
    builtIn.control urlName (by decide)
  refine ⟨element, there, ?_⟩
  rw [tags]
  decide

/-- An address is shown until another one is. -/
theorem showsUrl_of_sameAround (builtIn : page.IsBuiltIn)
    (fresh : after.IsFresh) (same : SameAround names keymapPlace page after)
    (unlisted : ∀ name ∈ ["id", "checked", "value"], name ∉ names)
    {url : String} (shows : page.ShowsUrl url) : after.ShowsUrl url := by
  have checked {control : Control} (member : control ∈ controls) :
      after.isChecked control.id = page.isChecked control.id :=
    builtIn.isChecked_of_sameAround fresh same (unlisted _ (by decide))
      (unlisted _ (by decide)) member
  have member : urlName ∈ controls := by decide
  obtain ⟨element, there, noArea⟩ := builtIn.urlName_noArea
  refine ⟨?_, ?_, ?_⟩
  · rw [checked (by decide), shows.urlTab]
  · rw [checked (by decide), shows.textTab]
  · rw [builtIn.fresh.value_of_sameAround fresh same (unlisted _ (by decide))
      (builtIn.control urlName member).1 there noArea
      (le_keymapPlace urlName member) (unlisted _ (by decide)), shows.name]

/-- The tab of the address is checked, and the address goes into its field. -/
theorem chooseUrl (builtIn : page.IsBuiltIn) (url : String) :
    ∃ chosen named, page.setChecked urlTab.id true = .ok chosen ∧
      chosen.setValue urlName.id url = .ok named ∧
      named.IsBuiltIn ∧ named.ShowsUrl url := by
  obtain ⟨first, element, there, agrees⟩ :=
    builtIn.control urlTab (by decide)
  obtain ⟨firstText, text, thereText, agreesText⟩ :=
    builtIn.control textTab (by decide)
  have grouped : radioGroup? element = some "source" :=
    (radioGroup?_congr agrees (by decide) (by decide)).trans (by decide)
  have groupedText : radioGroup? text = some "source" :=
    (radioGroup?_congr agreesText (by decide) (by decide)).trans (by decide)
  obtain ⟨chosen, choosing, fresh, same, checked, others⟩ :=
    builtIn.fresh.setChecked_radio first there grouped
      (List.mem_singleton_self "checked")
  have builtInChosen := builtIn.of_sameAround fresh (by decide)
    (same keymapPlace)
  have unchecked := others _ _ _ (by decide) firstText thereText groupedText
  have member : urlName ∈ controls := by decide
  obtain ⟨field, thereField, noArea⟩ := builtInChosen.urlName_noArea
  obtain ⟨named, naming, freshNamed, contents, value⟩ :=
    fresh.setValue_of_not_area (builtInChosen.control urlName member).1
      thereField noArea url
  have sameNamed := sameAround_of_edit thereField
    (editsOnly_withAttribute (List.mem_singleton_self "value") url) contents
    keymapPlace
  have stays {control : Control} (member : control ∈ controls) :
      named.isChecked control.id = chosen.isChecked control.id :=
    builtInChosen.isChecked_of_sameAround freshNamed sameNamed (by decide)
      (by decide) member
  refine ⟨chosen, named, choosing, naming,
    builtInChosen.of_sameAround freshNamed (by decide) sameNamed, ?_, ?_, value⟩
  · rw [stays (by decide), checked]
  · rw [stays (by decide), unchecked]

end IsBuiltIn

end Page

/-! ## Built-in viewers -/

variable {μ ς τ : Type} [Wasm.Runtime μ ς]

/-- A viewer with the default settings on the built-in page, whatever was done
with it, and with a module that returns texts and imports nothing. -/
structure Viewer.IsBuiltIn (viewer : Viewer (Instance μ ς) τ) : Prop where
  settings : viewer.settings = .default
  secluded : viewer.client.IsSecluded
  page : viewer.page.IsBuiltIn

namespace Viewer

theorem OpensPlain.isBuiltIn [Wasm.LawfulRuntime μ] {disk : Disk}
    {settings : Settings} {base : String} {network : Network}
    {viewer : Viewer (Instance μ ς)}
    (opens : OpensPlain disk settings base viewer network) :
    viewer.IsBuiltIn :=
  ⟨opens.isFramed.settings, opens.isFramed.secluded,
    opens.isFramed.frames.isBuiltIn⟩

namespace IsBuiltIn

variable {viewer after : Viewer (Instance μ ς) τ}

theorem drawsAt (builtIn : viewer.IsBuiltIn) :
    viewer.DrawsAt Page.keymapPlace where
  secluded := builtIn.secluded
  fresh := builtIn.page.fresh
  keymap := by
    rw [builtIn.settings]
    exact (builtIn.page.control Page.keymapField (by decide)).1

theorem of_leaves (builtIn : viewer.IsBuiltIn)
    (leaves : LeavesAround Page.keymapPlace viewer after) : after.IsBuiltIn :=
  ⟨leaves.settings.trans builtIn.settings, leaves.secluded,
    builtIn.page.of_sameAround leaves.fresh Page.drawingNames_subset
      leaves.page⟩

theorem showsUrl_of_leaves (builtIn : viewer.IsBuiltIn)
    (leaves : LeavesAround Page.keymapPlace viewer after) {url : String}
    (shows : viewer.page.ShowsUrl url) : after.page.ShowsUrl url :=
  builtIn.page.showsUrl_of_sameAround leaves.fresh leaves.page (by decide)
    shows

theorem setPage (builtIn : viewer.IsBuiltIn) {page : Page}
    (same : page.IsBuiltIn) : (viewer.setPage page).IsBuiltIn :=
  ⟨builtIn.settings, Client.isSecluded_setPage builtIn.secluded page, same⟩

theorem contains_textId (builtIn : viewer.IsBuiltIn) :
    viewer.page.contains viewer.settings.textId = true := by
  rw [builtIn.settings]
  exact builtIn.page.contains Page.textField (by decide)

theorem setSpinner (builtIn : viewer.IsBuiltIn) (state : Spinner) :
    ∃ page, viewer.perform (Viewer.setSpinner state) =
      (.ok (), viewer.setPage page) := by
  have known : viewer.page.contains viewer.settings.spinnerId = true := by
    rw [builtIn.settings]
    exact builtIn.page.contains Page.spinner (by decide)
  obtain ⟨page, styled, -⟩ := builtIn.page.fresh.setStyleProperty known
    (show "style" ∈ drawingNames by decide) id_notMem_drawingNames "display"
    state.display
  refine ⟨page, ?_⟩
  rw [perform_setSpinner, perform_edit, styled]

/-- A drawing comes to what the module answers, and the answer is the same on
any page. -/
theorem renderText [Wasm.LawfulRuntime μ] (builtIn : viewer.IsBuiltIn)
    (text : String) :
    (viewer.perform (Viewer.renderText text)).1 =
      (viewer.client.renderMarkup text).1.map fun _ => () := by
  obtain ⟨page, spinning⟩ := builtIn.setSpinner .loading
  have leavesWaiting := builtIn.drawsAt.setSpinner .loading
  rw [spinning] at leavesWaiting
  have waits := leavesWaiting.drawsAt builtIn.drawsAt
  obtain ⟨drawn, drawing, leavesDrawn⟩ := waits.drawInto text
  have answer := (Client.renderMarkup_alike builtIn.secluded text page).2
  rw [show (viewer.setPage page).client.renderMarkup text = _ from answer]
    at drawing
  unfold Viewer.renderText
  simp only [perform_bind, spinning, perform_get, drawing]
  cases (viewer.client.renderMarkup text).1 with
  | error fault =>
      rfl
  | ok markup =>
      have draws := leavesDrawn.drawsAt waits
      obtain ⟨shown, showing, leavesShown⟩ := draws.showLayers [0]
      have builtInShown := (builtIn.of_leaves leavesWaiting).of_leaves
        (leavesDrawn.trans leavesShown)
      obtain ⟨last, resting⟩ := builtInShown.setSpinner .idle
      simp only [Except.map, showOnlyLayer, showing, resting]

end IsBuiltIn

end Viewer

end KeymapViewer
