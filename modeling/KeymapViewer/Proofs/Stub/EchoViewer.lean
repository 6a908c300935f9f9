import KeymapViewer.Proofs.Page.Edit
import KeymapViewer.Proofs.Stub.EchoRun
import KeymapViewer.Proofs.Viewer.Drawing

/-!
Viewers with the stub that copies its input. Their keymaps are the markup that
they draw, as long as the heap of the stub has room.
-/

namespace KeymapViewer

open Text Wasm Stub

namespace Client

theorem Echoing.setPage {client : Client} {heap : Nat}
    (echoing : client.Echoing heap) (page : Page) :
    (client.setPage page).Echoing heap :=
  ⟨echoing.abi, echoing.clean, echoing.echoes.resume echoing.echoes.heap _⟩

/-- What the stub starts as. -/
def startedEcho (contract : Contract) (page : Page) : Client :=
  ⟨contract, .empty,
    started cStringModule [] ⟨0, 1, some 2⟩ 3 defaultBudget page⟩

theorem page_startedEcho (contract : Contract) (page : Page) :
    (startedEcho contract page).page = page :=
  rfl

theorem echoing_startedEcho {contract : Contract}
    (abi : contract.abi = .cString) (page : Page) :
    (startedEcho contract page).Echoing heapStart.toNat :=
  ⟨abi, rfl, echoes_started (by decide) page⟩

end Client

namespace Viewer

/-- A framed viewer whose module is the stub, between two drawings. -/
structure IsEchoing (viewer : Viewer) (state : Spinner) (heap : Nat) : Prop
    extends viewer.IsFramed state where
  echoing : viewer.client.Echoing heap
  budget : viewer.client.running.budget = defaultBudget

namespace IsEchoing

variable {viewer : Viewer} {state : Spinner} {heap : Nat}

theorem setPage (echoing : viewer.IsEchoing state heap) {page : Page}
    {next : Spinner} (frames : page.Frames next) :
    (viewer.setPage page).IsEchoing next heap :=
  { echoing.toIsFramed.setPage frames with
    echoing := echoing.echoing.setPage page
    budget := echoing.budget }

/-- The stub returns a keymap up to its first character zero. -/
theorem drawing (echoing : viewer.IsEchoing state heap) {text : String}
    (fits : echoEnd heap text ≤ heapLimit) :
    ∃ client, viewer.drawing text = (.ok (upToNul text), client) ∧
      client.Echoing (echoEnd heap text) ∧
      client.running.budget = defaultBudget := by
  obtain ⟨page, spinning, agree⟩ :=
    echoing.toIsFramed.setSpinner .loading
  have waiting := echoing.setPage agree.frames
  obtain ⟨client, answered, -, budget, -, after⟩ :=
    waiting.echoing.renderMarkup fits
      ((echoSteps_lt_defaultBudget fits).trans_eq waiting.budget.symm)
  refine ⟨client, ?_, after, budget.trans waiting.budget⟩
  rw [Viewer.drawing, spinning]
  exact answered

theorem renderText (echoing : viewer.IsEchoing state heap) {text : String}
    (fits : echoEnd heap text ≤ heapLimit) :
    ∃ after, viewer.perform (Viewer.renderText text) = (.ok (), after) ∧
      after.IsEchoing .idle (echoEnd heap text) := by
  obtain ⟨client, drawn, echoingAfter, budget⟩ := echoing.drawing fits
  obtain ⟨after, page, performed, framed, -, -, same⟩ :=
    echoing.toIsFramed.renderText_of_ok drawn
  refine ⟨after, performed, framed, ?_, ?_⟩
  · rw [same]
    exact echoingAfter.setPage _
  · rw [same]
    exact budget

end IsEchoing

/-! ## Pages of any kind -/

/-- A page with a drawing on it, before the spinner goes. -/
def drawOn (settings : ViewerSettings) (markup : String) (page : Page) :
    Except Fault Page := do
  let waiting ← page.setStyleProperty settings.spinnerId "display"
    Spinner.loading.display
  let filled ← waiting.setInnerHtml settings.keymapId markup
  markLayers settings [0] filled

def hideSpinner (settings : ViewerSettings) (page : Page) :
    Except Fault Page :=
  page.setStyleProperty settings.spinnerId "display" Spinner.idle.display

/-- On whatever page the stub draws, nothing but the spinner can be missing once
the markup is there. -/
theorem renderText_of_drawOn {viewer : Viewer} {heap : Nat}
    (echoing : viewer.client.Echoing heap)
    (budget : viewer.client.running.budget = defaultBudget) {text : String}
    (fits : echoEnd heap text ≤ heapLimit) {page : Page}
    (drawn : drawOn viewer.settings (upToNul text) viewer.page = .ok page) :
    ∃ client : Client, client.Echoing (echoEnd heap text) ∧
      client.running.budget = defaultBudget ∧
      viewer.perform (renderText text) =
        match hideSpinner viewer.settings page with
        | .ok rested => (.ok (), { viewer with client }.setPage rested)
        | .error fault =>
          (.error fault, { viewer with client }.setPage page) := by
  obtain ⟨waiting, spinning, drawn⟩ := exists_of_bind_eq_ok drawn
  obtain ⟨filled, filling, marking⟩ := exists_of_bind_eq_ok drawn
  obtain ⟨client, answered, -, kept, host, after⟩ :=
    (echoing.setPage waiting).renderMarkup fits
      ((echoSteps_lt_defaultBudget fits).trans_eq budget.symm)
  have samePage : client.page = waiting := congrArg Host.page host
  refine ⟨client, after, kept.trans budget, ?_⟩
  have known : waiting.contains viewer.settings.keymapId = true :=
    Page.contains_of_setInnerHtml filling
  have into : (viewer.setPage waiting).client.renderInto text
      (viewer.setPage waiting).settings.keymapId =
        (.ok (), client.setPage filled) := by
    change (viewer.client.setPage waiting).renderInto text
      viewer.settings.keymapId = _
    have page : (viewer.client.setPage waiting).page = waiting := rfl
    have abi : (viewer.client.setPage waiting).contract.abi = .cString :=
      echoing.abi
    simp only [Client.renderInto, page, known, Bool.not_true,
      Bool.false_eq_true, if_false, abi, answered, samePage, filling]
  have spun : viewer.perform (setSpinner .loading) =
      (.ok (), viewer.setPage waiting) := by
    rw [perform_setSpinner, perform_edit, spinning]
  have shown : Viewer.perform
      { viewer.setPage waiting with client := client.setPage filled }
      (showOnlyLayer 0) =
        (.ok (), { viewer with client }.setPage page) := by
    rw [showOnlyLayer, perform_showLayers, perform_edit]
    change (match markLayers viewer.settings [0] filled with
      | .ok page => _ | .error fault => _) = _
    rw [marking]
    rfl
  unfold renderText
  simp only [perform_bind, spun, perform_get, perform_drawInto, into, shown]
  rw [perform_setSpinner, perform_edit]
  rfl
/-! ## Opening -/

/-- A viewer opens with the stub when it is found where the settings say. -/
theorem openWith_echo {disk : Disk} {settings : Settings} {base : String}
    {network : Network} (plain : settings.viewer = .default)
    (usual : settings.module.entry = none)
    (found : Fetch.bytes disk base network settings.module.path =
      .ok (Kind.binary .cString)) :
    ∃ viewer : Viewer, OpensPlain disk settings base viewer network ∧
      viewer.IsEchoing .idle heapStart.toNat := by
  obtain ⟨contract, abi, instantiated⟩ :=
    starts_cString.instantiateWith defaultBudget (.parse Page.template)
  have loaded : loadClient (Fetch.bytes disk base network)
      settings.module.path settings.module.entry (.parse Page.template) =
        .ok (.startedEcho contract (.parse Page.template)) := by
    rw [loadClient, found, usual]
    exact instantiated
  obtain ⟨page, opened, frames⟩ :=
    openWith_eq plain loaded (Client.page_startedEcho ..)
  have opens : OpensPlain disk settings base _ network :=
    ⟨opened, plain, abi, rfl⟩
  exact ⟨_, opens, opens.isFramed,
    (Client.echoing_startedEcho abi _).setPage page, rfl⟩

end Viewer

end KeymapViewer
