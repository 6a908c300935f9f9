import KeymapViewer.Proofs.Viewer.Drawing
import KeymapViewer.Proofs.Viewer.Layers

/-!
What drawing leaves alone. A viewer whose module imports nothing changes its
page in the keymap element only, and elsewhere the attributes that show the
spinner and the layers; that holds for any page, and whatever the drawing
comes to.
-/

namespace KeymapViewer.Viewer

open Markup

/-- The attributes that drawing sets. -/
def drawingNames : List String := ["style", "visibility"]

theorem id_notMem_drawingNames : "id" ∉ drawingNames := by
  decide

variable {μ ς τ : Type} [Wasm.Runtime μ ς]

/-- A viewer with a module that returns texts and imports nothing, and where
its keymap element is. -/
structure DrawsAt (viewer : Viewer (Instance μ ς) τ) (place : List Nat) :
    Prop where
  secluded : viewer.client.IsSecluded
  fresh : viewer.page.IsFresh
  keymap : viewer.page.document.first? viewer.settings.keymapId = some place

/-- A viewer before and after an action that leaves its page alone around the
keymap element. -/
structure LeavesAround (place : List Nat)
    (viewer after : Viewer (Instance μ ς) τ) : Prop where
  settings : after.settings = viewer.settings
  fetched : after.fetched = viewer.fetched
  secluded : after.client.IsSecluded
  fresh : after.page.IsFresh
  page : Page.SameAround drawingNames place viewer.page after.page

namespace LeavesAround

variable {place : List Nat} {viewer between after : Viewer (Instance μ ς) τ}

theorem drawsAt (leaves : LeavesAround place viewer after)
    (draws : viewer.DrawsAt place) : after.DrawsAt place where
  secluded := leaves.secluded
  fresh := leaves.fresh
  keymap := by
    rw [leaves.settings]
    exact leaves.page.first?_eq id_notMem_drawingNames draws.keymap le_rfl

theorem trans (first : LeavesAround place viewer between)
    (second : LeavesAround place between after) :
    LeavesAround place viewer after where
  settings := second.settings.trans first.settings
  fetched := second.fetched.trans first.fetched
  secluded := second.secluded
  fresh := second.fresh
  page := first.page.trans second.page

end LeavesAround

namespace DrawsAt

variable {viewer : Viewer (Instance μ ς) τ} {place : List Nat}

theorem leavesAround_self (draws : viewer.DrawsAt place) :
    LeavesAround place viewer viewer :=
  ⟨rfl, rfl, draws.secluded, draws.fresh, .refl viewer.page⟩

/-- An edit of the page leaves alone what the new page does. -/
theorem edit (draws : viewer.DrawsAt place)
    {change : Page → Except Fault Page}
    (leaves : ∀ page, change viewer.page = .ok page →
      page.IsFresh ∧ Page.SameAround drawingNames place viewer.page page) :
    LeavesAround place viewer (viewer.perform (Viewer.edit change)).2 := by
  rw [perform_edit]
  cases changed : change viewer.page with
  | error fault =>
      exact draws.leavesAround_self
  | ok page =>
      obtain ⟨fresh, same⟩ := leaves page changed
      exact ⟨rfl, rfl, Client.isSecluded_setPage draws.secluded page, fresh,
        same⟩

theorem setSpinner (draws : viewer.DrawsAt place) (state : Spinner) :
    LeavesAround place viewer
      (viewer.perform (Viewer.setSpinner state)).2 := by
  rw [perform_setSpinner]
  refine draws.edit fun page done => ?_
  have known : viewer.page.contains viewer.settings.spinnerId = true := by
    by_contra unknown
    rw [Page.setStyleProperty, Page.style, Page.attribute?, Page.find,
      Page.slotOf_of_not_contains (Bool.not_eq_true _ ▸ unknown)] at done
    cases done
  obtain ⟨after, styled, fresh, same⟩ := draws.fresh.setStyleProperty known
    (show "style" ∈ drawingNames by decide) id_notMem_drawingNames "display"
    state.display
  obtain rfl := Except.ok.inj (styled.symm.trans done)
  exact ⟨fresh, same place⟩

theorem showLayers (draws : viewer.DrawsAt place) (layers : List Nat) :
    ∃ after, viewer.perform (Viewer.showLayers layers) = (.ok (), after) ∧
      LeavesAround place viewer after := by
  obtain ⟨page, marked, marks⟩ :=
    exists_marks draws.fresh viewer.settings layers
  refine ⟨viewer.setPage page, ?_, rfl, rfl,
    Client.isSecluded_setPage draws.secluded page, marks.fresh,
    marks.sameAround (by decide) place⟩
  rw [perform_showLayers, perform_edit_of_ok marked]

variable [Wasm.LawfulRuntime μ]

/-- Markup goes into the keymap element, and nothing else comes from the
module. -/
theorem drawInto (draws : viewer.DrawsAt place) (text : String) :
    ∃ after,
      viewer.perform (Viewer.drawInto text viewer.settings.keymapId) =
        ((viewer.client.renderMarkup text).1.map fun _ => (), after) ∧
      LeavesAround place viewer after := by
  rw [perform_drawInto]
  obtain ⟨secluded, samePage⟩ :=
    Client.renderMarkup_secluded draws.secluded text
  have known : viewer.client.page.contains viewer.settings.keymapId = true :=
    draws.fresh.contains_of_first? draws.keymap
  rcases rendered : viewer.client.renderMarkup text with
    ⟨fault | markup, client⟩
  all_goals
    rw [rendered] at secluded samePage
    have freshSame : client.page.IsFresh := by
      rw [samePage]
      exact draws.fresh
  · rw [Client.renderInto_of_error draws.secluded known rendered]
    refine ⟨_, rfl, rfl, rfl, secluded, freshSame, ?_⟩
    change Page.SameAround drawingNames place viewer.page client.page
    rw [samePage]
    exact .refl viewer.page
  · obtain ⟨page, filled, fresh, same⟩ :=
      draws.fresh.setInnerHtml_sameAround draws.keymap markup drawingNames
    rw [Client.renderInto_of_ok draws.secluded rendered known filled]
    exact ⟨_, rfl, rfl, rfl, Client.isSecluded_setPage secluded page, fresh,
      same⟩

/-- Whatever a drawing comes to, it leaves the page alone around the keymap
element. -/
theorem renderText (draws : viewer.DrawsAt place) (text : String) :
    LeavesAround place viewer (viewer.perform (Viewer.renderText text)).2 := by
  have spinning := draws.setSpinner .loading
  unfold Viewer.renderText
  rw [perform_bind]
  revert spinning
  rcases viewer.perform (Viewer.setSpinner .loading) with
    ⟨fault | spun, waiting⟩
  all_goals
    intro leavesWaiting
  · exact leavesWaiting
  have waits := leavesWaiting.drawsAt draws
  obtain ⟨drawn, drawing, leavesDrawn⟩ := waits.drawInto text
  simp only [perform_bind, perform_get, drawing]
  cases (waiting.client.renderMarkup text).1 with
  | error fault =>
      exact leavesWaiting.trans leavesDrawn
  | ok markup =>
      have draws := leavesDrawn.drawsAt waits
      obtain ⟨shown, showing, leavesShown⟩ := draws.showLayers [0]
      simp only [Except.map, showOnlyLayer, showing]
      exact (leavesWaiting.trans (leavesDrawn.trans leavesShown)).trans
        ((leavesShown.drawsAt draws).setSpinner .idle)

end DrawsAt

end KeymapViewer.Viewer
