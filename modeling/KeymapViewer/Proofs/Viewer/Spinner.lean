import KeymapViewer.Proofs.Page.Lens
import KeymapViewer.Proofs.Viewer.Drawing

/-!
The spinner as a lens on the style of an element. It has the state it was given,
and toggling it twice gives the state it had and touches no other property of
its style, whatever style it has and whatever was done to the page before.
-/

namespace KeymapViewer.Viewer

open Page

theorem isProperty_display : Style.IsProperty "display" :=
  ⟨by decide, by decide, by decide, by decide⟩

theorem isValue_display (state : Spinner) : Style.IsValue state.display := by
  cases state with
  | idle =>
      exact ⟨by decide, by decide⟩
  | loading =>
      exact ⟨by decide, by decide⟩

theorem ofDisplay_display (state : Spinner) :
    Spinner.ofDisplay state.display = state := by
  cases state with
  | idle =>
      decide
  | loading =>
      decide

theorem other_other (state : Spinner) : state.other.other = state := by
  cases state with
  | idle =>
      rfl
  | loading =>
      rfl

variable {μ ς τ : Type} [Wasm.Runtime μ ς]

/-- A viewer before and after its spinner is given a state. -/
structure GivesSpinner (viewer : Viewer (Instance μ ς) τ) (state : Spinner)
    (page : Page) : Prop where
  performed : viewer.perform (setSpinner state) = (.ok (), viewer.setPage page)
  spinner : (viewer.setPage page).spinner = .ok state
  style : viewer.page.SetsProperty viewer.settings.spinnerId "display"
    state.display page

/-- A viewer before and after its spinner is toggled twice. -/
structure TogglesTwice (viewer : Viewer (Instance μ ς) τ) (state : Spinner)
    (between last : Page) : Prop where
  before : viewer.spinner = .ok state
  first : viewer.perform toggleSpinner =
    (.ok state.other, viewer.setPage between)
  second : (viewer.setPage between).perform toggleSpinner =
    (.ok state, viewer.setPage last)
  after : (viewer.setPage last).spinner = .ok state
  others : ∀ property, property ≠ "display" →
    last.styleProperty viewer.settings.spinnerId property =
      viewer.page.styleProperty viewer.settings.spinnerId property

section

variable {viewer : Viewer (Instance μ ς) τ} {state : Spinner} {page : Page}

theorem exists_spinner (sound : viewer.page.IsSound)
    (known : viewer.page.contains viewer.settings.spinnerId = true) :
    ∃ state, viewer.spinner = .ok state := by
  obtain ⟨slot, leads⟩ := exists_slotOf known
  obtain ⟨element, below, found⟩ := sound.isElement leads
  refine ⟨.ofDisplay (element.style.get "display"), ?_⟩
  rw [spinner, styleProperty_of_node? leads found, Except.map]

theorem exists_givesSpinner (sound : viewer.page.IsSound)
    (known : viewer.page.contains viewer.settings.spinnerId = true)
    (state : Spinner) : ∃ page, viewer.GivesSpinner state page := by
  obtain ⟨page, sets⟩ := sound.exists_setsProperty known isProperty_display
    (isValue_display state)
  refine ⟨page, ?_, ?_, sets⟩
  · rw [perform_setSpinner]
    exact perform_edit_of_ok sets.done
  · have shown : (viewer.setPage page).page.styleProperty
        (viewer.setPage page).settings.spinnerId "display" =
          .ok state.display := sets.get
    rw [spinner, shown, Except.map, ofDisplay_display]

/-- A toggle gives the spinner its other state. -/
theorem perform_toggleSpinner (shown : viewer.spinner = .ok state)
    (gives : viewer.GivesSpinner state.other page) :
    viewer.perform toggleSpinner = (.ok state.other, viewer.setPage page) := by
  unfold toggleSpinner
  rw [perform_bind, perform_look, shown]
  change viewer.perform (setSpinner state.other >>= fun _ =>
    pure state.other) = _
  rw [perform_bind, gives.performed]
  rfl

theorem exists_togglesTwice (sound : viewer.page.IsSound)
    (known : viewer.page.contains viewer.settings.spinnerId = true) :
    ∃ state between last, viewer.TogglesTwice state between last := by
  obtain ⟨state, before⟩ := exists_spinner sound known
  obtain ⟨between, gives⟩ := exists_givesSpinner sound known state.other
  have soundBetween : (viewer.setPage between).page.IsSound :=
    gives.style.isSound sound
  have knownBetween : (viewer.setPage between).page.contains
      (viewer.setPage between).settings.spinnerId = true := by
    rw [← known]
    exact contains_congr gives.style.ids _
  obtain ⟨last, givesBack⟩ :=
    exists_givesSpinner soundBetween knownBetween state
  have back : (viewer.setPage between).GivesSpinner state.other.other last := by
    rw [other_other]
    exact givesBack
  have second := perform_toggleSpinner gives.spinner back
  rw [other_other] at second
  refine ⟨state, between, last, before, perform_toggleSpinner before gives,
    second, givesBack.spinner, fun property differs => ?_⟩
  have sameLast := givesBack.style.others property differs
  exact sameLast.trans (gives.style.others property differs)

end

/-- Whatever was done to a page, setting a property of a style is a lens on the
elements that the page knows, and the spinner is one on its style. -/
theorem setStyleProperty_isLens (html : String) (edits : List Edit) :
    let page := (parse html).run edits
    (∀ id property value, page.contains id = true →
        Style.IsProperty property → Style.IsValue value →
          ∃ after, page.SetsProperty id property value after) ∧
      ∀ viewer : Viewer (Instance μ ς) τ, viewer.page = page →
        page.contains viewer.settings.spinnerId = true →
          (∀ state, ∃ after, viewer.GivesSpinner state after) ∧
            ∃ state between last, viewer.TogglesTwice state between last := by
  intro page
  have sound : page.IsSound := isSound_run html edits
  refine ⟨fun id property value known named valued =>
    sound.exists_setsProperty known named valued,
    fun viewer same known => ?_⟩
  rw [← same] at sound known
  exact ⟨exists_givesSpinner sound known, exists_togglesTwice sound known⟩

/-- A spinner with declarations that are left out, that have no value or that
come twice. -/
def scruffyHtml : String :=
  "<p id=spinny style=' a :b;;c; d: ;display : block;d:f '></p>"

/-- The spinner can be found even when its id has been taken away. -/
theorem setStyleProperty_isLens_scruffy :
    let page := (parse scruffyHtml).run [.removeAttribute "spinny" "id"]
    (∃ after, page.SetsProperty "spinny" "d" "g h" after) ∧
      ∀ client : Client,
        let viewer := Viewer.new (client.setPage page) .default
        (∃ after, viewer.GivesSpinner .loading after) ∧
          ∃ state between last, viewer.TogglesTwice state between last := by
  intro page
  have known : page.contains "spinny" = true := by
    decide +kernel
  obtain ⟨properties, spinners⟩ := setStyleProperty_isLens
    (μ := Wasm.Module) (τ := List String) scruffyHtml
    [.removeAttribute "spinny" "id"]
  have named : Style.IsProperty "d" :=
    ⟨by decide, by decide, by decide, by decide⟩
  have valued : Style.IsValue "g h" := ⟨by decide, by decide⟩
  refine ⟨properties "spinny" "d" "g h" known named valued, fun client => ?_⟩
  obtain ⟨gives, toggles⟩ :=
    spinners (Viewer.new (client.setPage page) .default) rfl known
  exact ⟨gives .loading, toggles⟩

end KeymapViewer.Viewer
