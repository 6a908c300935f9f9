import KeymapViewer.Proofs.Viewer.Drawing

/-!
Layers that are switched. Afterwards exactly the layers that were asked for are
visible, of those that the page has, and what was visible before leaves no
trace. The page may have any ids and attributes, and its index may be out of
date.
-/

namespace KeymapViewer.Viewer

open Markup Page

variable {μ ς τ : Type} [Wasm.Runtime μ ς]

/-- A viewer before and after it shows layers. -/
structure Switches (viewer : Viewer (Instance μ ς) τ) (layers : List Nat)
    (page : Page) : Prop where
  performed : viewer.perform (showLayers layers) = (.ok (), viewer.setPage page)
  increasing : (viewer.setPage page).visibleLayers.Pairwise (· < ·)
  visible : ∀ layer, layer ∈ (viewer.setPage page).visibleLayers ↔
    layer < viewer.settings.maxLayers ∧ layer ∈ layers ∧
      viewer.page.contains (viewer.settings.layerId layer) = true
  ids : page.ids = viewer.page.ids
  /-- What the id of a layer addresses gets the visibility of the layer. -/
  addressed : ∀ layer < viewer.settings.maxLayers, ∀ position,
    viewer.page.Addresses (viewer.settings.layerId layer) position →
      ∃ element,
        viewer.page.document.contentAt? position = some (.element element) ∧
        page.document.contentAt? position = some (.element { element with
          attributes := withAttribute "visibility" (mark layers layer)
            element.attributes })
  others : ∀ position,
    (∀ layer < viewer.settings.maxLayers,
      ¬ viewer.page.Addresses (viewer.settings.layerId layer) position) →
    page.document.contentAt? position =
      viewer.page.document.contentAt? position
  /-- Other layers come to what they come to without these. -/
  again : ∀ next, (viewer.setPage page).perform (showLayers next) =
    viewer.perform (showLayers next)

/-- Marks that are made over others come to the same page. -/
theorem markLayers_withMarks {page : Page} (sound : page.IsSound)
    (settings : ViewerSettings) (first second : List Nat) :
    markLayers settings second
        (withMarks settings first (List.range settings.maxLayers) page) =
      markLayers settings second page := by
  have soundBetween := (markLayers_eq sound settings first).2
  rw [(markLayers_eq sound settings second).1,
    (markLayers_eq soundBetween settings second).1, withMarks, withMarks,
    editSlots_comp]
  have last := markEdits_markEdits settings first second page
    (List.range settings.maxLayers)
  exact congrArg (fun edits => Except.ok (page.editSlots edits)) (funext last)

theorem visibleLayers_withMarks {viewer : Viewer (Instance μ ς) τ}
    (sound : viewer.page.IsSound) (layers : List Nat) :
    (viewer.setPage (withMarks viewer.settings layers
        (List.range viewer.settings.maxLayers) viewer.page)).visibleLayers =
      (List.range viewer.settings.maxLayers).filter fun layer =>
        layers.contains layer &&
          viewer.page.contains (viewer.settings.layerId layer) :=
  visibleLayers_eq fun _ member => attribute?_withMarks sound member

theorem exists_switches {viewer : Viewer (Instance μ ς) τ}
    (sound : viewer.page.IsSound) (layers : List Nat) :
    ∃ page, viewer.Switches layers page := by
  obtain ⟨done, soundAfter⟩ := markLayers_eq sound viewer.settings layers
  have shown := visibleLayers_withMarks sound layers
  refine ⟨withMarks viewer.settings layers
      (List.range viewer.settings.maxLayers) viewer.page,
    ?_, ?_, fun layer => ?_, rfl, fun layer small position => ?_,
    fun position elsewhere => ?_, fun next => ?_⟩
  · rw [perform_showLayers, perform_edit_of_ok done]
  · rw [shown]
    exact List.pairwise_lt_range.filter _
  · rw [shown, List.mem_filter, List.mem_range, Bool.and_eq_true,
      List.contains_iff_mem]
  · exact contentAt?_of_addresses sound soundAfter (List.mem_range.mpr small)
  · exact contentAt?_of_not_addresses sound soundAfter fun layer member =>
      elsewhere layer (List.mem_range.mp member)
  · have alone := (markLayers_eq sound viewer.settings next).1
    have after := (markLayers_withMarks sound viewer.settings layers next).trans
      alone
    rw [perform_showLayers, perform_showLayers, perform_edit_of_ok alone,
      perform_edit_of_ok after]
    rfl

/-- Whatever was done to a page, whatever layers it has and however a viewer
names them, showing layers never fails, shows exactly the layers that were asked
for and forgets what was shown before. -/
theorem showLayers_isMemoryless (html : String) (edits : List Edit)
    (viewer : Viewer (Instance μ ς) τ) (layers : List Nat) :
    ∃ page,
      (viewer.setPage ((parse html).run edits)).Switches layers page := by
  have sound : (viewer.setPage ((parse html).run edits)).page.IsSound :=
    isSound_run html edits
  exact exists_switches sound layers

end KeymapViewer.Viewer
