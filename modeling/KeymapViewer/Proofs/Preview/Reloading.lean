import KeymapViewer.Proofs.Preview.Interleaving
import KeymapViewer.Proofs.Preview.ReloadScript

/-!
Which pages of the viewer reload. Every page is served with the script, except
for those that have the marker without it; and since a keymap may hold any
comment, there are such pages.
-/

namespace KeymapViewer.Preview

open Text

namespace Server

/-- The page of the viewer is what a target is answered with. -/
structure Serves (server : Server) (target page : String) : Prop where
  forViewer : IsForViewer target
  isDrawn : server.progress.isDrawn = true
  accepted : (server.respond target).1.status = .ok
  page : (server.respond target).2.viewer.page.toHtml = page

/-- The page is served as it is, but for the script. -/
theorem Serves.body_eq {server : Server} {target page : String}
    (serves : server.Serves target page) :
    (server.respond target).1.body = withReloadScript page := by
  obtain ⟨response, viewer, answered, answers⟩ :=
    respond_of_isDrawn serves.isDrawn serves.forViewer
  have accepted := serves.accepted
  rw [← serves.page]
  rw [answered] at accepted ⊢
  cases answers with
  | plain unasked =>
      simp only [Response.page]
  | layer asked number marked =>
      simp only [Response.page, Viewer.page_setPage]
  | refusal asked noNumber =>
      cases accepted

/-- What was drawn is served, as long as no layer is asked for. -/
theorem serves_of_performed {server : Server} {disk : Disk} {text : String}
    {viewer : Viewer} (read : readKeymap disk server.keymap = .ok text)
    (performed : server.viewer.perform (Viewer.renderText text) =
      (.ok (), viewer)) {target : String} (forViewer : IsForViewer target)
    (unasked : Viewer.queryValue? (Request.splitTarget target).2
      Viewer.layerVariable = none) :
    (server.cycle disk).2.Serves target viewer.page.toHtml := by
  have succeeded : (server.draw disk).1 = .ok () := by
    rw [draw, read]
    simp only [performed]
  have isDrawn : (server.cycle disk).2.progress.isDrawn = true := by
    rw [progress_cycle, succeeded, Progress.isDrawn_record]
    rfl
  have shown : (server.cycle disk).2.viewer = viewer := by
    rw [viewer_cycle, viewer_draw_of_read read, performed]
  obtain ⟨response, after, answered, answers⟩ :=
    respond_of_isDrawn isDrawn forViewer
  rw [shown] at answers
  cases answers with
  | plain =>
      refine ⟨forViewer, isDrawn, ?_, ?_⟩
      · rw [answered]
        rfl
      · rw [answered]
  | layer asked =>
      rw [unasked] at asked
      cases asked
  | refusal asked =>
      rw [unasked] at asked
      cases asked

end Server

/-- A page that reloads wherever it is served: the script is put into it unless
it is there, but never twice. -/
structure Reloads (page : String) : Prop where
  placed : occurrences reloadScript.toList page.toList = 0 →
    IsPutInto reloadScript.toList page.toList (withReloadScript page).toList
  settled : withReloadScript (withReloadScript page) = withReloadScript page
  served : ∀ (server : Server) (target : String),
    server.Serves target page →
      0 < occurrences reloadScript.toList
        (server.respond target).1.body.toList

/-- A page with the marker of the script, but without the script. -/
def HasLoneMarker (page : String) : Prop :=
  0 < occurrences reloadMarker.toList page.toList ∧
    occurrences reloadScript.toList page.toList = 0

variable {page : String}

theorem occurrences_withReloadScript_pos_iff :
    0 < occurrences reloadScript.toList (withReloadScript page).toList ↔
      ¬HasLoneMarker page := by
  rw [HasLoneMarker, not_and, ← ne_eq, ← Nat.pos_iff_ne_zero]
  rcases Nat.eq_zero_or_pos (occurrences reloadMarker.toList page.toList) with
    unmarked | marked
  · rw [(occurrences_withReloadScript unmarked).2, unmarked]
    exact iff_of_true Nat.one_pos fun nothing => absurd nothing (Nat.lt_irrefl 0)
  · rw [withReloadScript_of_marker marked]
    exact ⟨fun there _ => there, fun there => there marked⟩

theorem not_reloads_of_hasLoneMarker (lone : HasLoneMarker page) :
    ¬Reloads page := by
  intro reloads
  have put := reloads.placed lone.2
  rw [withReloadScript_of_marker lone.1] at put
  exact put.ne_page reloadScript_ne_nil rfl

theorem reloads_of_not_hasLoneMarker (noLone : ¬HasLoneMarker page) :
    Reloads page where
  placed absent := by
    apply isPutInto_withReloadScript
    by_contra marked
    exact noLone ⟨Nat.pos_of_ne_zero marked, absent⟩
  settled := withReloadScript_withReloadScript page
  served server target serves := by
    rw [serves.body_eq]
    exact occurrences_withReloadScript_pos_iff.mpr noLone

/-- A page reloads unless it has the marker without the script, and exactly then
it is served with the script. The script is never put into a page twice. -/
theorem reloads_iff (page : String) :
    (Reloads page ↔ ¬HasLoneMarker page) ∧
      withReloadScript (withReloadScript page) = withReloadScript page ∧
      ∀ (server : Server) (target : String), server.Serves target page →
        (0 < occurrences reloadScript.toList
            (server.respond target).1.body.toList ↔
          ¬HasLoneMarker page) := by
  refine ⟨⟨?_, reloads_of_not_hasLoneMarker⟩,
    withReloadScript_withReloadScript page, ?_⟩
  · intro reloads lone
    exact not_reloads_of_hasLoneMarker lone reloads
  · intro server target serves
    rw [serves.body_eq]
    exact occurrences_withReloadScript_pos_iff

/-! ## A keymap with the marker -/

section Marked

open Stub Traffic

/-- A keymap that holds the marker, and keeps the spinner on the page. -/
def markedKeymap : String := reloadMarker ++ spinnerMarkup

/-- The page with that keymap drawn on it. -/
def markedPage : Except Fault Page := do
  let marked ←
    Viewer.markLayers narrowSettings.viewer [0] (.parse narrowTemplate)
  let drawn ← Viewer.drawOn narrowSettings.viewer markedKeymap marked
  Viewer.hideSpinner narrowSettings.viewer drawn

def markedHtml : String :=
  "<p id=\"layer0\" visibility=\"visible\"></p><div id=\"keymap\">" ++
    "<!-- ergoweb-dev-client -->" ++
    "<b id=\"spinny\" style=\"display: none\"></b></div>"

theorem toHtml_markedPage :
    markedPage.toOption.map Page.toHtml = some markedHtml := by
  decide +kernel

theorem hasLoneMarker_markedHtml : HasLoneMarker markedHtml := by
  unfold HasLoneMarker markedHtml reloadScript
  simp only [String.toList_append]
  repeat rw [String.toList_ofList]
  decide +kernel

/-- A server that has drawn the keymap serves its page. -/
theorem exists_serves_markedHtml :
    ∃ viewer, Viewer.openWith narrowDisk narrowSettings "/" = .ok viewer ∧
      ((Server.new viewer "keymap").after
        [.cycle (Server.echoDisk markedKeymap)]).Serves "/" markedHtml := by
  obtain ⟨settled, made, html⟩ := Option.map_eq_some_iff.mp toHtml_markedPage
  have drawn := ok_of_toOption made
  obtain ⟨marked, marking, drawn⟩ := exists_of_bind_eq_ok drawn
  obtain ⟨page, drawnOn, hidden⟩ := exists_of_bind_eq_ok drawn
  obtain ⟨client, echoing, budget, same, opening⟩ :=
    exists_narrowViewer marking
  rw [← same] at drawnOn
  obtain ⟨after, -, -, performed⟩ :=
    renderText_narrow echoing budget (by decide +kernel) (by decide +kernel)
      drawnOn
  simp only [hidden] at performed
  have shown : (Viewer.new (after.setPage settled)
      narrowSettings.viewer).page.toHtml = markedHtml := html
  -- Both viewers are kept as they are from here on. Otherwise the comparison of
  -- two servers unfolds them and evaluates their modules.
  generalize Viewer.new (after.setPage settled) narrowSettings.viewer =
    drawnViewer at performed shown
  generalize Viewer.new client narrowSettings.viewer = viewer
    at opening performed
  refine ⟨viewer, opening, ?_⟩
  let server := Server.new viewer "keymap"
  have read : Server.readKeymap (Server.echoDisk markedKeymap) server.keymap =
      .ok markedKeymap := Server.readKeymap_echoDisk markedKeymap
  have performedThere : server.viewer.perform
      (Viewer.renderText markedKeymap) = (.ok (), drawnViewer) := performed
  have forViewer : Server.IsForViewer "/" := by
    decide +kernel
  have unasked : Viewer.queryValue? (Request.splitTarget "/").2
      Viewer.layerVariable = none := by
    decide +kernel
  rw [← shown]
  exact Server.serves_of_performed read performedThere forViewer unasked

/-- That page is served without the script. -/
theorem not_reloads_markedHtml :
    ¬Reloads markedHtml ∧
      ∃ viewer, Viewer.openWith narrowDisk narrowSettings "/" = .ok viewer ∧
        let server := (Server.new viewer "keymap").after
          [.cycle (Server.echoDisk markedKeymap)]
        server.Serves "/" markedHtml ∧
          (server.respond "/").1.body = markedHtml := by
  have lone := hasLoneMarker_markedHtml
  refine ⟨not_reloads_of_hasLoneMarker lone, ?_⟩
  obtain ⟨viewer, opening, serves⟩ := exists_serves_markedHtml
  refine ⟨viewer, opening, serves, ?_⟩
  rw [serves.body_eq, withReloadScript_of_marker lone.1]

end Marked

end KeymapViewer.Preview
