import KeymapViewer.Proofs.Client.Secluded
import KeymapViewer.Proofs.Viewer.Frame

/-!
Drawings of a viewer on the built-in page whose module imports nothing. Its
page stays framed whatever becomes of an action, and when a keymap is drawn
the page is known from the markup of the module alone.
-/

namespace KeymapViewer.Viewer

open Markup

/-! ## Actions -/

section Actions

variable {σ μ ς τ φ α β : Type}

theorem perform_bind (viewer : Viewer σ τ) (first : ActionOn σ τ α)
    (next : α → ActionOn σ τ β) :
    viewer.perform (first >>= next) =
      match viewer.perform first with
      | (.ok value, viewer) => viewer.perform (next value)
      | (.error fault, viewer) => (.error fault, viewer) := by
  simp only [perform, ExceptT.run_bind, StateT.run_bind]
  rcases first.run.run viewer with ⟨fault | value, after⟩
  · rfl
  · rfl

theorem perform_get (viewer : Viewer σ τ) :
    viewer.perform get = (.ok viewer, viewer) :=
  rfl

theorem perform_fetchText [Fetcher φ τ] [Renderer σ] (viewer : Viewer σ τ)
    (fetch : φ) (location : String) :
    viewer.perform (fetchText fetch location) =
      (((Fetcher.text fetch location).run viewer.fetched).1,
        { viewer with fetched :=
            ((Fetcher.text fetch location).run viewer.fetched).2 }) := by
  unfold fetchText
  simp only [perform_bind, perform_get]
  rcases (Fetcher.text fetch location).run viewer.fetched with
    ⟨fault | text, fetched⟩
  · rfl
  · rfl

theorem perform_look [Renderer σ] (viewer : Viewer σ τ)
    (view : Viewer σ τ → Except Fault α) :
    viewer.perform (look view) = (view viewer, viewer) := by
  unfold look
  simp only [perform_bind, perform_get]
  cases view viewer with
  | ok value =>
      rfl
  | error fault =>
      rfl

variable [Wasm.Runtime μ ς]

theorem page_setPage (viewer : Viewer (Instance μ ς) τ) (page : Page) :
    (viewer.setPage page).page = page :=
  rfl

theorem perform_edit (viewer : Viewer (Instance μ ς) τ)
    (change : Page → Except Fault Page) :
    viewer.perform (edit change) =
      match change viewer.page with
      | .ok page => (.ok (), viewer.setPage page)
      | .error fault => (.error fault, viewer) := by
  unfold edit
  simp only [perform_bind, perform_get]
  cases change viewer.page with
  | ok page =>
      rfl
  | error fault =>
      rfl

theorem perform_edit_of_ok {viewer : Viewer (Instance μ ς) τ}
    {change : Page → Except Fault Page} {page : Page}
    (done : change viewer.page = .ok page) :
    viewer.perform (edit change) = (.ok (), viewer.setPage page) := by
  rw [perform_edit, done]

theorem perform_drawInto (viewer : Viewer (Instance μ ς) τ) (text id : String) :
    viewer.perform (drawInto text id) =
      ((viewer.client.renderInto text id).1,
        { viewer with client := (viewer.client.renderInto text id).2 }) := by
  unfold drawInto
  simp only [perform_bind, perform_get]
  rcases viewer.client.renderInto text id with ⟨fault | value, client⟩
  · rfl
  · rfl

theorem perform_setSpinner (viewer : Viewer (Instance μ ς) τ)
    (state : Spinner) :
    viewer.perform (setSpinner state) =
      viewer.perform (edit (·.setStyleProperty viewer.settings.spinnerId
        "display" state.display)) := by
  unfold setSpinner
  rw [perform_bind, perform_get]

theorem perform_selectUrlTab (viewer : Viewer (Instance μ ς) τ) :
    viewer.perform selectUrlTab =
      viewer.perform (edit (·.setChecked viewer.settings.urlTabId true)) := by
  unfold selectUrlTab
  rw [perform_bind, perform_get]

theorem perform_showLayers (viewer : Viewer (Instance μ ς) τ)
    (layers : List Nat) :
    viewer.perform (showLayers layers) =
      viewer.perform (edit (markLayers viewer.settings layers)) := by
  unfold showLayers
  rw [perform_bind, perform_get]

end Actions

/-! ## Framed viewers -/

variable {μ ς τ : Type} [Wasm.Runtime μ ς]

/-- A viewer with the default settings on the built-in page, and with a module
that returns texts and imports nothing. -/
structure IsFramed (viewer : Viewer (Instance μ ς) τ) (state : Spinner) :
    Prop where
  settings : viewer.settings = .default
  secluded : viewer.client.IsSecluded
  frames : viewer.page.Frames state

namespace IsFramed

variable {viewer : Viewer (Instance μ ς) τ} {state : Spinner}

theorem keymapId (framed : viewer.IsFramed state) :
    viewer.settings.keymapId = "keymap" := by
  rw [framed.settings]
  rfl

theorem setPage (framed : viewer.IsFramed state) {page : Page}
    {next : Spinner} (frames : page.Frames next) :
    (viewer.setPage page).IsFramed next :=
  ⟨framed.settings, Client.isSecluded_setPage framed.secluded page, frames⟩

theorem setSpinner (framed : viewer.IsFramed state) (next : Spinner) :
    ∃ page, viewer.perform (Viewer.setSpinner next) =
        (.ok (), viewer.setPage page) ∧
      page.Agree next viewer.page state := by
  obtain ⟨page, done, frames, same⟩ := framed.frames.setSpinner next
  refine ⟨page, ?_, frames, framed.frames, fun position inside => ?_⟩
  · rw [perform_setSpinner, perform_edit, framed.settings]
    change (match viewer.page.setStyleProperty "spinny" "display"
      next.display with | .ok page => _ | .error fault => _) = _
    rw [done]
  · refine same position ?_
    rintro rfl
    exact Page.not_inDrawing_spinnerPlace inside

theorem showLayers (framed : viewer.IsFramed state) (layers : List Nat)
    {other : Page} {otherState : Spinner}
    (agree : viewer.page.Agree state other otherState) :
    ∃ page otherAfter, viewer.perform (Viewer.showLayers layers) =
        (.ok (), viewer.setPage page) ∧
      markLayers .default layers other = .ok otherAfter ∧
      page.Agree state otherAfter otherState := by
  obtain ⟨page, otherAfter, done, otherDone, agreeAfter⟩ :=
    agree.markLayers layers
  refine ⟨page, otherAfter, ?_, otherDone, agreeAfter⟩
  rw [perform_showLayers, perform_edit, framed.settings, done]

/-- A layer that is asked for changes the drawing on the page at most. -/
theorem applyLayerQuery (framed : viewer.IsFramed state) (query : String) :
    ∃ page,
      (viewer.perform (Viewer.applyLayerQuery query)).2 =
        viewer.setPage page ∧
      page.Frames state := by
  have unchanged : viewer = viewer.setPage viewer.page := rfl
  unfold Viewer.applyLayerQuery
  cases queryValue? query layerVariable with
  | none =>
      exact ⟨viewer.page, unchanged, framed.frames⟩
  | some value =>
      simp only [perform_bind, perform_look]
      cases layerOf value with
      | error fault =>
          exact ⟨viewer.page, unchanged, framed.frames⟩
      | ok layer =>
          obtain ⟨page, _, done, -, agree⟩ :=
            framed.showLayers [layer] (.refl framed.frames)
          refine ⟨page, ?_, agree.frames⟩
          simp only [showOnlyLayer, done]
          rfl

end IsFramed

/-- The built-in page with markup in its keymap element, and of the layers
there only the first one visible. -/
def drawnPage (markup : String) : Except Fault Page := do
  let page ← (Page.parse Page.template).setInnerHtml
    ViewerSettings.default.keymapId markup
  markLayers .default [0] page

/-- What the module answers when it is asked to draw a text, which is after the
spinner has begun to show. -/
def drawing (viewer : Viewer (Instance μ ς) τ) (text : String) :
    Except Fault String × Client (Instance μ ς) :=
  (viewer.perform (setSpinner .loading)).2.client.renderMarkup text

/-- Two framed pages have the same drawing once the same markup is put into
their keymap elements. -/
theorem agree_of_setInnerHtml {page other after otherAfter : Page}
    {otherState : Spinner} {markup : String} (frames : page.Frames state)
    (otherFrames : other.Frames otherState)
    (done : page.setInnerHtml "keymap" markup = .ok after)
    (otherDone : other.setInnerHtml "keymap" markup = .ok otherAfter) :
    after.Agree state otherAfter otherState := by
  obtain ⟨_, same, framesAfter, below⟩ := frames.setInnerHtml markup
  obtain ⟨_, otherSame, otherFramesAfter, otherBelow⟩ :=
    otherFrames.setInnerHtml markup
  obtain rfl := Except.ok.inj (same.symm.trans done)
  obtain rfl := Except.ok.inj (otherSame.symm.trans otherDone)
  refine ⟨framesAfter, otherFramesAfter, ?_⟩
  rintro position ⟨⟨rest, rfl⟩, differs⟩
  have inside : rest ≠ [] := by
    rintro rfl
    exact differs (List.append_nil _)
  rw [below rest inside, otherBelow rest inside]

namespace IsFramed

variable [Wasm.LawfulRuntime μ] {viewer : Viewer (Instance μ ς) τ}
  {state : Spinner}

/-- What the module returns is put into the keymap element. -/
theorem renderInto_of_ok (framed : viewer.IsFramed state)
    {text markup : String} {client : Client (Instance μ ς)}
    (rendered : viewer.client.renderMarkup text = (.ok markup, client)) :
    ∃ page, viewer.client.renderInto text "keymap" =
        (.ok (), client.setPage page) ∧
      viewer.page.setInnerHtml "keymap" markup = .ok page := by
  have known : viewer.client.page.contains "keymap" = true :=
    framed.frames.contains_keymap
  obtain ⟨page, done, -⟩ := framed.frames.setInnerHtml markup
  exact ⟨page,
    Client.renderInto_of_ok framed.secluded rendered known done, done⟩

/-- When the module returns markup the text is drawn, and the page is that of
the markup, whatever it was before. -/
theorem renderText_of_ok (framed : viewer.IsFramed state)
    {text markup : String} {client : Client (Instance μ ς)}
    (drawn : viewer.drawing text = (.ok markup, client)) :
    ∃ after page, viewer.perform (Viewer.renderText text) = (.ok (), after) ∧
      after.IsFramed .idle ∧ drawnPage markup = .ok page ∧
      after.page.document = page.document ∧
      after.client = client.setPage after.page := by
  obtain ⟨waiting, spinning, agreeWaiting⟩ := framed.setSpinner .loading
  have framedWaiting := framed.setPage agreeWaiting.frames
  rw [drawing, spinning] at drawn
  obtain ⟨filled, drawnInto, filling⟩ :=
    framedWaiting.renderInto_of_ok drawn
  obtain ⟨bare, plain, -⟩ := Page.frames_template.setInnerHtml markup
  have agreeFilled := agree_of_setInnerHtml framedWaiting.frames
    Page.frames_template filling plain
  have secluded : client.IsSecluded := by
    have kept := (Client.renderMarkup_secluded framedWaiting.secluded text).1
    rwa [show (viewer.setPage waiting).client.renderMarkup text = _ from
      drawn] at kept
  have framedFilled : Viewer.IsFramed
      { viewer.setPage waiting with client := client.setPage filled }
      .loading :=
    ⟨framedWaiting.settings, Client.isSecluded_setPage secluded filled,
      agreeFilled.frames⟩
  obtain ⟨marked, page, marking, plainMarked, agreeMarked⟩ :=
    framedFilled.showLayers [0] agreeFilled
  have framedMarked := framedFilled.setPage agreeMarked.frames
  obtain ⟨last, resting, agreeLast⟩ := framedMarked.setSpinner .idle
  refine ⟨_, page, ?_, framedMarked.setPage agreeLast.frames, ?_,
    (agreeLast.trans agreeMarked).document_eq, rfl⟩
  · unfold Viewer.renderText
    simp only [perform_bind, spinning, perform_get, framedWaiting.keymapId,
      perform_drawInto, drawnInto, showOnlyLayer, marking, resting]
  · unfold drawnPage
    rw [show ViewerSettings.default.keymapId = "keymap" from rfl, plain]
    exact plainMarked

/-- When the module does not, the spinner keeps showing. -/
theorem renderText_of_error (framed : viewer.IsFramed state)
    {text : String} {fault : Fault} {client : Client (Instance μ ς)}
    (failed : viewer.drawing text = (.error fault, client)) :
    ∃ after,
      viewer.perform (Viewer.renderText text) = (.error fault, after) ∧
      after.IsFramed .loading := by
  obtain ⟨waiting, spinning, agreeWaiting⟩ := framed.setSpinner .loading
  have framedWaiting := framed.setPage agreeWaiting.frames
  rw [drawing, spinning] at failed
  have drawnInto := Client.renderInto_of_error framedWaiting.secluded
    framedWaiting.frames.contains_keymap failed
  obtain ⟨secluded, samePage⟩ :=
    Client.renderMarkup_secluded framedWaiting.secluded text
  rw [show (viewer.setPage waiting).client.renderMarkup text = _ from
    failed] at secluded samePage
  refine ⟨{ viewer.setPage waiting with client }, ?_,
    framedWaiting.settings, secluded, ?_⟩
  · unfold Viewer.renderText
    simp only [perform_bind, spinning, perform_get, framedWaiting.keymapId,
      perform_drawInto, drawnInto]
  · change client.page.Frames .loading
    rw [samePage]
    exact agreeWaiting.frames

end IsFramed

/-! ## Opening -/

/-- A viewer that was opened on the built-in page with the default settings,
and with a module that returns texts and imports nothing. -/
structure OpensPlain (disk : Disk) (settings : Settings) (base : String)
    (viewer : Viewer (Instance μ ς)) (network : Network := .offline) :
    Prop where
  opened : openWith disk settings base network μ = .ok viewer
  settings : settings.viewer = .default
  abi : viewer.client.contract.abi = .cString
  imports : Wasm.Runtime.imports viewer.client.running.module = []

/-- Marking the first layer is all that is done to a page that has loaded. -/
theorem perform_onLoad (viewer : Viewer (Instance μ ς) τ) :
    viewer.perform onLoad =
      if viewer.page.contains (viewer.settings.layerId 0) then
        match markLayers viewer.settings [0] viewer.page with
        | .ok page => (.ok (), viewer.setPage page)
        | .error fault => (.error fault, viewer)
      else
        (.error (.missingElement (viewer.settings.layerId 0)), viewer) := by
  simp only [onLoad, perform_bind, perform_get]
  cases viewer.page.contains (viewer.settings.layerId 0) with
  | true =>
      exact (perform_showLayers viewer [0]).trans (perform_edit ..)
  | false =>
      rfl

theorem marked_of_perform_onLoad {viewer after : Viewer (Instance μ ς) τ}
    (loaded : viewer.perform onLoad = (.ok (), after)) :
    ∃ page, markLayers viewer.settings [0] viewer.page = .ok page ∧
      after = viewer.setPage page := by
  rw [perform_onLoad] at loaded
  split at loaded
  · cases marked : markLayers viewer.settings [0] viewer.page with
    | error fault =>
        rw [marked] at loaded
        cases loaded
    | ok page =>
        rw [marked] at loaded
        cases loaded
        exact ⟨page, rfl, rfl⟩
  · cases loaded

/-- The built-in page can be used, whatever the module that is started. -/
theorem openWith_eq {disk : Disk} {settings : Settings} {base : String}
    {network : Network} (plain : settings.viewer = .default)
    {client : Client (Instance μ ς)}
    (loaded : loadClient (Fetch.bytes disk base network) settings.module.path
      settings.module.entry (.parse Page.template) μ = .ok client)
    (samePage : client.page = .parse Page.template) :
    ∃ page, openWith disk settings base network μ =
        .ok ((new client .default).setPage page) ∧
      page.Frames .idle := by
  obtain ⟨page, _, marked, -, agree⟩ :=
    (Page.Agree.refl Page.frames_template).markLayers [0]
  refine ⟨page, ?_, agree.frames⟩
  have performed : (new client .default).perform onLoad =
      (.ok (), (new client .default).setPage page) := by
    have known : (new client .default).page = .parse Page.template := samePage
    have settings : (new client .default).settings = .default := rfl
    rw [perform_onLoad, known, settings, if_pos Page.contains_first_layer,
      marked]
  have page : loadPage disk .default = .ok (.parse Page.template) := rfl
  simp only [openWith, plain, page, bind, Except.bind, loaded, performed]
  rfl

theorem exists_of_openWith {disk : Disk} {settings : Settings} {base : String}
    {network : Network} {viewer : Viewer (Instance μ ς)}
    (plain : settings.viewer = .default)
    (opened : openWith disk settings base network μ = .ok viewer) :
    ∃ (client : Client (Instance μ ς)) (marked : Page),
      loadClient (Fetch.bytes disk base network) settings.module.path
        settings.module.entry (.parse Page.template) μ = .ok client ∧
      markLayers .default [0] client.page = .ok marked ∧
      viewer = (new client .default).setPage marked := by
  unfold openWith at opened
  rw [plain] at opened
  obtain ⟨page, read, opening⟩ := exists_of_bind_eq_ok opened
  cases read
  obtain ⟨client, loaded, showing⟩ := exists_of_bind_eq_ok opening
  rcases performed : (new client .default).perform onLoad with
    ⟨fault | done, after⟩
  · rw [performed] at showing
    cases showing
  · rw [performed] at showing
    cases showing
    obtain ⟨marked, marking, rfl⟩ := marked_of_perform_onLoad performed
    exact ⟨client, marked, loaded, marking, rfl⟩

theorem OpensPlain.isFramed [Wasm.LawfulRuntime μ] {disk : Disk}
    {settings : Settings} {base : String} {network : Network}
    {viewer : Viewer (Instance μ ς)}
    (opens : OpensPlain disk settings base viewer network) :
    viewer.IsFramed .idle := by
  obtain ⟨client, marked, loaded, marking, rfl⟩ :=
    exists_of_openWith opens.settings opens.opened
  obtain ⟨binary, -, loaded⟩ := exists_of_bind_eq_ok loaded
  obtain ⟨secluded, samePage⟩ :=
    Client.instantiateWith_secluded loaded opens.abi opens.imports
  have framed : (new client .default).IsFramed .idle := by
    refine ⟨rfl, secluded, ?_⟩
    change client.page.Frames .idle
    rw [samePage]
    exact Page.frames_template
  obtain ⟨found, _, same, -, agree⟩ :=
    (Page.Agree.refl framed.frames).markLayers [0]
  obtain rfl := Except.ok.inj (same.symm.trans marking)
  exact framed.setPage agree.frames

end KeymapViewer.Viewer
