import KeymapViewer.Proofs.Client.Settled
import KeymapViewer.Proofs.Stub.EchoViewer
import KeymapViewer.Proofs.Viewer.Around
import KeymapViewer.Proofs.Viewer.Spinner

/-!
What a drawing comes to. On any page with a spinner and a keymap element a text
is drawn, or nothing changes but the spinner, which keeps showing. Only the
module decides which: once it has returned its markup nothing can fail any more,
whatever elements the markup has.
-/

namespace KeymapViewer.Viewer

open Markup Text Stub

variable {μ ς τ : Type} [Wasm.Runtime μ ς]

/-! ## The spinner -/

/-- A viewer before and after its spinner gets a state. -/
structure Spins (viewer : Viewer (Instance μ ς) τ) (place : List Nat)
    (state : Spinner) (page : Page) : Prop where
  performed : viewer.perform (setSpinner state) = (.ok (), viewer.setPage page)
  fresh : page.IsFresh
  kept : Page.DiffersInAttribute "style" place viewer.page page
  same : ∀ place, Page.SameAround ["style"] place viewer.page page
  spinner : (viewer.setPage page).spinner = .ok state

/-- The spinner gets its state as long as the page has one. -/
theorem exists_spins {viewer : Viewer (Instance μ ς) τ}
    (fresh : viewer.page.IsFresh) {place : List Nat}
    (first : viewer.page.document.first? viewer.settings.spinnerId =
      some place) (state : Spinner) :
    ∃ page, viewer.Spins place state page := by
  have known := fresh.contains_of_first? first
  obtain ⟨page, gives⟩ := exists_givesSpinner fresh.isSound known state
  obtain ⟨other, done, freshPage, same⟩ := fresh.setStyleProperty known
    (List.mem_singleton_self "style") (by decide) "display" state.display
  obtain rfl := Except.ok.inj (done.symm.trans gives.style.done)
  exact ⟨_, gives.performed, freshPage, (fresh.differsInStyle first done).2,
    same, gives.spinner⟩

namespace Spins

variable {viewer : Viewer (Instance μ ς) τ} {place : List Nat}
  {state : Spinner} {page : Page}

theorem first?_eq (spins : viewer.Spins place state page) (id : String) :
    page.document.first? id = viewer.page.document.first? id :=
  Page.SameAround.first?_eq_of_forall spins.same (by decide) id

theorem contains_eq (spins : viewer.Spins place state page)
    (fresh : viewer.page.IsFresh) (id : String) :
    page.contains id = viewer.page.contains id := by
  rw [spins.fresh.contains_eq, fresh.contains_eq, spins.first?_eq]

/-- The module is asked once the spinner has begun to show. -/
theorem drawing_eq (spins : viewer.Spins place .loading page)
    (text : String) : viewer.drawing text =
      (viewer.client.setPage page).renderMarkup text := by
  rw [drawing, spins.performed]
  rfl

/-- Layers stay visible or hidden while the spinner changes. -/
theorem visibleLayers (spins : viewer.Spins place state page)
    (fresh : viewer.page.IsFresh) :
    (viewer.setPage page).visibleLayers = viewer.visibleLayers := by
  have same (id : String) : page.attribute? id "visibility" =
      viewer.page.attribute? id "visibility" :=
    fresh.attribute?_of_forall spins.fresh spins.same (by decide) (by decide)
  unfold Viewer.visibleLayers
  simp only [page_setPage, same]
  rfl

end Spins

/-! ## After the markup is there -/

/-- On any page with a spinner the first layer can be shown and the spinner put
to rest. -/
theorem exists_rested {viewer : Viewer (Instance μ ς) τ}
    (fresh : viewer.page.IsFresh) (looks : 1 ≤ viewer.settings.maxLayers)
    {place : List Nat}
    (first : viewer.page.document.first? viewer.settings.spinnerId =
      some place) :
    ∃ marked page,
      viewer.perform (showOnlyLayer 0) = (.ok (), viewer.setPage marked) ∧
      (viewer.setPage marked).perform (setSpinner .idle) =
        (.ok (), viewer.setPage page) ∧
      (∀ place, Page.SameAround drawingNames place viewer.page page) ∧
      (viewer.setPage page).spinner = .ok .idle ∧
      (viewer.setPage page).visibleLayers =
        if page.contains (viewer.settings.layerId 0) then [0] else [] := by
  obtain ⟨marked, marking, marks⟩ := exists_marks fresh viewer.settings [0]
  have freshMarked : (viewer.setPage marked).page.IsFresh := marks.fresh
  have firstMarked : (viewer.setPage marked).page.document.first?
      (viewer.setPage marked).settings.spinnerId = some place :=
    (marks.first _).trans first
  obtain ⟨page, spins⟩ := exists_spins freshMarked firstMarked .idle
  refine ⟨marked, page, ?_, spins.performed, fun place => ?_, spins.spinner,
    ?_⟩
  · rw [showOnlyLayer, perform_showLayers, perform_edit_of_ok marking]
  · have listed : ["style"] ⊆ drawingNames := by decide
    have styled := Page.SameAround.mono listed (spins.same place)
    exact (marks.sameAround (by decide) place).trans styled
  · have visible : (viewer.setPage page).visibleLayers =
        (viewer.setPage marked).visibleLayers :=
      spins.visibleLayers freshMarked
    have shown : (viewer.setPage marked).visibleLayers =
        (List.range viewer.settings.maxLayers).filter fun layer =>
          [0].contains layer &&
            marked.contains (viewer.settings.layerId layer) :=
      visibleLayers_of_marks marks
    have known : page.contains (viewer.settings.layerId 0) =
        marked.contains (viewer.settings.layerId 0) :=
      spins.contains_eq freshMarked _
    rw [visible, shown, filter_range_singleton_zero looks, known]

/-! ## Drawings -/

/-- A viewer that looks for layers, and whose page has a spinner and a keymap
element, the spinner not inside the keymap element. -/
structure IsFurnished (viewer : Viewer (Instance μ ς) τ)
    (spinnerPlace keymapPlace : List Nat) : Prop where
  fresh : viewer.page.IsFresh
  layers : 1 ≤ viewer.settings.maxLayers
  spinner : viewer.page.document.first? viewer.settings.spinnerId =
    some spinnerPlace
  keymap : viewer.page.document.first? viewer.settings.keymapId =
    some keymapPlace
  outside : keymapPlace <+: spinnerPlace → spinnerPlace = keymapPlace

/-- What drawing a text comes to: the markup that the module returns is there,
or there is none and the page differs in the style of the spinner at most. -/
inductive Outcome (viewer : Viewer (Instance μ ς) τ) (text : String)
    (spinnerPlace : List Nat) :
    Except Fault Unit × Viewer (Instance μ ς) τ → Prop where
  | drawn {markup : String} {filled : Page}
      {after : Viewer (Instance μ ς) τ}
      (answered : (viewer.drawing text).1 = .ok markup)
      (filling : (viewer.perform (setSpinner .loading)).2.page.setInnerHtml
        viewer.settings.keymapId markup = .ok filled)
      (kept : ∀ place, Page.SameAround drawingNames place filled after.page)
      (settings : after.settings = viewer.settings)
      (idle : after.spinner = .ok .idle)
      (layers : after.visibleLayers =
        if after.page.contains (viewer.settings.layerId 0) then [0] else [])
      (givenBack : after.client.outstanding = 0) :
      Outcome viewer text spinnerPlace (.ok (), after)
  | failed {fault : Fault} {after : Viewer (Instance μ ς) τ}
      (answered : (viewer.drawing text).1 = .error fault)
      (settings : after.settings = viewer.settings)
      (fresh : after.page.IsFresh)
      (kept : Page.DiffersInAttribute "style" spinnerPlace viewer.page
        after.page)
      (loading : after.spinner = .ok .loading)
      (givenBack : after.client.outstanding = 0) :
      Outcome viewer text spinnerPlace (.error fault, after)

namespace IsFurnished

variable {viewer : Viewer (Instance μ ς) τ}
  {spinnerPlace keymapPlace : List Nat} {waiting : Page} {text : String}
  {client : Client (Instance μ ς)}

theorem contains_keymap
    (furnished : viewer.IsFurnished spinnerPlace keymapPlace)
    (spins : viewer.Spins spinnerPlace .loading waiting) :
    (viewer.client.setPage waiting).page.contains viewer.settings.keymapId =
      true :=
  spins.fresh.contains_of_first?
    ((spins.first?_eq _).trans furnished.keymap)

/-- Markup that goes into the keymap element leaves a spinner on the page, be it
the one that was there or one of the markup. -/
theorem exists_filled (furnished : viewer.IsFurnished spinnerPlace keymapPlace)
    (spins : viewer.Spins spinnerPlace .loading waiting) (markup : String) :
    ∃ filled place,
      waiting.setInnerHtml viewer.settings.keymapId markup = .ok filled ∧
      filled.IsFresh ∧
      filled.document.first? viewer.settings.spinnerId = some place := by
  have firstSpinner := (spins.first?_eq _).trans furnished.spinner
  have firstKeymap := (spins.first?_eq _).trans furnished.keymap
  obtain ⟨filled, slot, filling, fresh, substitutes⟩ :=
    spins.fresh.setInnerHtml firstKeymap markup
  have has := (Tree.isFirst_of_first? _ firstSpinner).has
  rw [Tree.idAt?, ← substitutes.around spinnerPlace furnished.outside] at has
  obtain ⟨place, first⟩ := Tree.exists_first?_of_idAt? has
  exact ⟨filled, place, filling, fresh, first⟩

variable [Wasm.LawfulRuntime μ]

theorem outcome_of_error
    (furnished : viewer.IsFurnished spinnerPlace keymapPlace)
    (secluded : viewer.client.IsSecluded)
    (spins : viewer.Spins spinnerPlace .loading waiting) {fault : Fault}
    (failed : (viewer.client.setPage waiting).renderMarkup text =
      (.error fault, client))
    (clean : client.ledger.live = []) :
    viewer.Outcome text spinnerPlace (viewer.perform (renderText text)) := by
  have secludedWaiting := Client.isSecluded_setPage secluded waiting
  have into : (viewer.setPage waiting).client.renderInto text
      (viewer.setPage waiting).settings.keymapId = (.error fault, client) :=
    Client.renderInto_of_error secludedWaiting
      (furnished.contains_keymap spins) failed
  have performed : viewer.perform (renderText text) =
      (.error fault, { viewer.setPage waiting with client }) := by
    unfold renderText
    simp only [perform_bind, spins.performed, perform_get, perform_drawInto,
      into]
  have samePage :
      Viewer.page { viewer.setPage waiting with client } = waiting := by
    have same := (Client.renderMarkup_secluded secludedWaiting text).2
    rwa [failed] at same
  have loading : Viewer.spinner { viewer.setPage waiting with client } =
      .ok .loading := by
    rw [Viewer.spinner, samePage]
    exact spins.spinner
  rw [performed]
  refine .failed ?_ rfl ?_ ?_ loading (List.length_eq_zero_iff.mpr clean)
  · rw [spins.drawing_eq, failed]
  · rw [samePage]
    exact spins.fresh
  · rw [samePage]
    exact spins.kept

theorem outcome_of_ok
    (furnished : viewer.IsFurnished spinnerPlace keymapPlace)
    (secluded : viewer.client.IsSecluded)
    (spins : viewer.Spins spinnerPlace .loading waiting) {markup : String}
    (rendered : (viewer.client.setPage waiting).renderMarkup text =
      (.ok markup, client))
    (clean : client.ledger.live = []) :
    viewer.Outcome text spinnerPlace (viewer.perform (renderText text)) := by
  obtain ⟨filled, place, filling, fresh, first⟩ :=
    furnished.exists_filled spins markup
  let drawn : Viewer (Instance μ ς) τ :=
    { viewer.setPage waiting with client := client.setPage filled }
  have into : (viewer.setPage waiting).client.renderInto text
      (viewer.setPage waiting).settings.keymapId =
        (.ok (), client.setPage filled) :=
    Client.renderInto_of_ok (Client.isSecluded_setPage secluded waiting)
      rendered (furnished.contains_keymap spins) filling
  have freshDrawn : drawn.page.IsFresh := fresh
  obtain ⟨marked, page, showing, resting, kept, idle, layers⟩ :=
    exists_rested freshDrawn furnished.layers first
  have performed : viewer.perform (renderText text) =
      (.ok (), drawn.setPage page) := by
    unfold renderText
    simp only [perform_bind, spins.performed, perform_get, perform_drawInto,
      into]
    rw [showing]
    exact resting
  have answered : (viewer.drawing text).1 = .ok markup := by
    rw [spins.drawing_eq, rendered]
  have fillingHere : (viewer.perform (setSpinner .loading)).2.page.setInnerHtml
      viewer.settings.keymapId markup = .ok filled := by
    rw [spins.performed]
    exact filling
  rw [performed]
  exact .drawn answered fillingHere kept rfl idle layers
    (List.length_eq_zero_iff.mpr clean)

theorem outcome (furnished : viewer.IsFurnished spinnerPlace keymapPlace)
    (secluded : viewer.client.IsSecluded)
    (clean : viewer.client.ledger.live = []) (text : String) :
    viewer.Outcome text spinnerPlace (viewer.perform (renderText text)) := by
  obtain ⟨waiting, spins⟩ :=
    exists_spins furnished.fresh furnished.spinner .loading
  have cleanWaiting : (viewer.client.setPage waiting).ledger.live = [] := clean
  have cleanAfter := Client.serve_clean cleanWaiting (.markup text)
  rcases rendered : (viewer.client.setPage waiting).renderMarkup text with
    ⟨fault | markup, client⟩
  all_goals simp only [Client.serve, rendered] at cleanAfter
  · exact furnished.outcome_of_error secluded spins rendered cleanAfter
  · exact furnished.outcome_of_ok secluded spins rendered cleanAfter

end IsFurnished

/-- Whatever a client was asked for before, drawing a text is all or nothing on
a page with a spinner and a keymap element, if the module imports nothing. This
holds on every lawful runtime. -/
theorem renderText_allOrNothing [Wasm.LawfulRuntime μ] {budget : Nat}
    {binary : Bytes} {entryName : Option String} {start : Page}
    {client : Client (Instance μ ς)}
    (started :
      Client.instantiateWith budget binary entryName start μ = .ok client)
    (abi : client.contract.abi = .cString)
    (imports : Wasm.Runtime.imports client.running.module = [])
    {viewer : Viewer (Instance μ ς) τ} (becomes : client.Becomes viewer.client)
    {spinnerPlace keymapPlace : List Nat}
    (furnished : viewer.IsFurnished spinnerPlace keymapPlace)
    (text : String) :
    viewer.Outcome text spinnerPlace (viewer.perform (renderText text)) :=
  furnished.outcome
    (becomes.secluded (Client.instantiateWith_secluded started abi imports).1)
    (becomes.clean
      (congrArg Ledger.live (Client.ledger_of_instantiateWith started))) text

/-- A page with its keymap before its spinner. -/
def crossedHtml : String := "<p id=keymap></p><p id=spinny></p>"

theorem isFurnished_crossed (client : Client) :
    (Viewer.new (client.setPage (.parse crossedHtml)) .default).IsFurnished
      [1] [0] := by
  have places : (Markup.Tree.node .document (Forest.parse crossedHtml)).first?
        "spinny" = some [1] ∧
      (Markup.Tree.node .document (Forest.parse crossedHtml)).first?
        "keymap" = some [0] := by
    decide +kernel
  rw [← Page.document_parse] at places
  have looks : 1 ≤ ViewerSettings.default.maxLayers := by decide
  exact ⟨Page.parse_isFresh crossedHtml, looks, places.1, places.2,
    by decide⟩

/-- A drawing that takes over the id of the spinner, after another one by the
module that copies its input. -/
theorem renderText_allOrNothing_crossed :
    ∃ client after : Client,
      let viewer := Viewer.new (after.setPage (.parse crossedHtml)) .default
      Client.instantiateWith defaultBudget (Kind.binary .cString) none
        (Page.parse "") = .ok client ∧
      client.contract.abi = .cString ∧
      client.running.module.imports = [] ∧
      client.Becomes viewer.client ∧
      viewer.IsFurnished [1] [0] ∧
      (viewer.perform (renderText "<b id=spinny></b>")).1 = .ok () ∧
      viewer.Outcome "<b id=spinny></b>" [1]
        (viewer.perform (renderText "<b id=spinny></b>")) := by
  obtain ⟨contract, abi, started⟩ :=
    starts_cString.instantiateWith defaultBudget (Page.parse "")
  have fits : echoEnd heapStart.toNat "<i></i>" ≤ heapLimit := by
    decide +kernel
  have fitsNext : echoEnd (echoEnd heapStart.toNat "<i></i>")
      "<b id=spinny></b>" ≤ heapLimit := by
    decide +kernel
  obtain ⟨after, answered, -, budget, -, echoing⟩ :=
    (Client.echoing_startedEcho abi (Page.parse "")).renderMarkup fits
      (echoSteps_lt_defaultBudget fits)
  have begun : (Client.startedEcho contract (Page.parse "")).Becomes
      (Client.startedEcho contract (Page.parse "")) := .refl
  have becomes : (Client.startedEcho contract (Page.parse "")).Becomes
      (Viewer.new (after.setPage (.parse crossedHtml)) .default).client := by
    have served := begun.serve (.markup "<i></i>")
    rw [Client.serve, answered] at served
    exact served.setPage (.parse crossedHtml)
  have furnished := isFurnished_crossed after
  have outcome := renderText_allOrNothing started abi rfl becomes furnished
    "<b id=spinny></b>"
  refine ⟨_, after, started, abi, rfl, becomes, furnished, ?_, outcome⟩
  obtain ⟨waiting, spins⟩ :=
    exists_spins furnished.fresh furnished.spinner .loading
  obtain ⟨client, drawn, -⟩ := (echoing.setPage waiting).renderMarkup fitsNext
    ((echoSteps_lt_defaultBudget fitsNext).trans_eq budget.symm)
  generalize Viewer.perform _ _ = performed at outcome
  cases outcome with
  | drawn =>
      rfl
  | failed answered =>
      rw [spins.drawing_eq] at answered
      cases (congrArg Prod.fst drawn).symm.trans answered

end KeymapViewer.Viewer
