import KeymapViewer.Proofs.Page.Edit
import KeymapViewer.Proofs.Preview.FaultPage
import KeymapViewer.Proofs.Preview.History
import Mathlib.Data.List.Induction

/-!
What a preview server shows of its drawings. After any cycles and requests it
has counted the cycles, it tells what came of the last one, and it has
announced each of them once.
-/

namespace KeymapViewer

open Text

/-! ## What is seen along a run -/

section Observed

variable {State Event Seen : Type*} {step : State → Event → State}
  {see : State → Event → Option Seen}

/-- What can be seen at the events of a run, one after another. -/
def observed (step : State → Event → State)
    (see : State → Event → Option Seen) : State → List Event → List Seen
  | _, [] => []
  | state, event :: rest =>
    (see state event).toList ++ observed step see (step state event) rest

theorem observed_concat (state : State) (events : List Event)
    (event : Event) :
    observed step see state (events ++ [event]) =
      observed step see state events ++
        (see (events.foldl step state) event).toList := by
  induction events generalizing state with
  | nil =>
      simp only [List.nil_append, observed, List.append_nil, List.foldl_nil]
  | cons first rest inductionHypothesis =>
      rw [List.cons_append, observed, inductionHypothesis, observed,
        List.append_assoc, List.foldl_cons]

theorem length_observed {counted : Event → Bool}
    (seen : ∀ state event, (see state event).isSome = counted event)
    (state : State) (events : List Event) :
    (observed step see state events).length = events.countP counted := by
  induction events generalizing state with
  | nil =>
      rfl
  | cons event rest inductionHypothesis =>
      rw [observed, List.length_append, inductionHypothesis,
        List.countP_cons, add_comm, ← seen state event]
      cases see state event with
      | none =>
          rfl
      | some it =>
          rfl

end Observed

/-! ## Layers that are asked for -/

namespace Viewer

/-- Layers that the page does not have are left out, so marking never
fails. -/
theorem exists_markLayers (settings : ViewerSettings) (layers : List Nat)
    (page : Page) : ∃ after, markLayers settings layers page = .ok after := by
  unfold markLayers
  induction List.range settings.maxLayers generalizing page with
  | nil =>
      exact ⟨page, rfl⟩
  | cons layer rest inductionHypothesis =>
      rw [List.foldlM_cons]
      by_cases known : page.contains (settings.layerId layer) = true
      · obtain ⟨marked, done⟩ := Page.exists_setAttribute known "visibility"
          (if layers.contains layer then visible else hidden)
        simp only [known, ↓reduceIte, done]
        exact inductionHypothesis marked
      · simp only [known, Bool.false_eq_true, ↓reduceIte]
        exact inductionHypothesis page

end Viewer

namespace Preview

variable {μ ς τ : Type} [Wasm.Runtime μ ς]

/-- What a query is answered with once a keymap is drawn: the page of the
viewer, after the layer that the query names has become the only visible one;
or a refusal that leaves the viewer as it is, if the layer is no number. -/
inductive AnswersQuery (viewer : Viewer (Instance μ ς) τ) (query : String) :
    Response × Viewer (Instance μ ς) τ → Prop
  | plain (unasked : Viewer.queryValue? query Viewer.layerVariable = none) :
      AnswersQuery viewer query
        (.page (withReloadScript viewer.page.toHtml), viewer)
  | layer {value : String} {layer : Nat} {page : Page}
      (asked : Viewer.queryValue? query Viewer.layerVariable = some value)
      (number : readWord? 64 value = some layer)
      (marked : Viewer.markLayers viewer.settings [layer] viewer.page =
        .ok page) :
      AnswersQuery viewer query
        (.page (withReloadScript page.toHtml), viewer.setPage page)
  | refusal {value : String}
      (asked : Viewer.queryValue? query Viewer.layerVariable = some value)
      (noNumber : readWord? 64 value = none) :
      AnswersQuery viewer query
        (⟨.badRequest, .plain,
          (Fault.config s!"Layer '{value}' is not a layer number").report⟩,
          viewer)

theorem viewerResponse_answersQuery (query : String)
    (viewer : Viewer (Instance μ ς) τ) :
    AnswersQuery viewer query (viewerResponse query viewer) := by
  unfold viewerResponse Viewer.applyLayerQuery
  cases asked : Viewer.queryValue? query Viewer.layerVariable with
  | none =>
      exact .plain asked
  | some value =>
      simp only [Viewer.perform_bind, Viewer.perform_look, Viewer.layerOf]
      cases number : readWord? 64 value with
      | none =>
          exact .refusal asked number
      | some layer =>
          obtain ⟨page, marked⟩ :=
            Viewer.exists_markLayers viewer.settings [layer] viewer.page
          simp only [Viewer.showOnlyLayer, Viewer.perform_showLayers,
            Viewer.perform_edit, marked]
          exact .layer asked number marked

/-! ## How the drawings stand -/

/-- How the drawings stand: there was none, or the last one was drawn, or it
failed and left a report. -/
inductive Standing where
  | pending
  | drawn
  | failed (report : String)

namespace Standing

def ofResult : Except Fault Unit → Standing
  | .ok () => .drawn
  | .error fault => .failed fault.report

/-- How the drawings with these results stand. -/
def ofResults (results : List (Except Fault Unit)) : Standing :=
  (results.getLast?.map ofResult).getD .pending

/-- What is recorded when so many drawings stand like this. All four parts of
the record are settled by it. -/
def progress (count : Nat) : Standing → Progress
  | .pending => ⟨false, none, count, "The keymap has not been rendered yet."⟩
  | .drawn => ⟨true, none, count, "Keymap rendered."⟩
  | .failed report =>
    ⟨false, some (faultPage "Render Failed" report count), count, report⟩

section

variable {count : Nat} {standing : Standing}

theorem version_progress : (standing.progress count).version = count := by
  cases standing with
  | pending =>
      rfl
  | drawn =>
      rfl
  | failed report =>
      rfl

theorem isDrawn_progress :
    (standing.progress count).isDrawn = true ↔ standing = .drawn := by
  cases standing with
  | pending =>
      exact iff_of_false Bool.false_ne_true nofun
  | drawn =>
      exact iff_of_true rfl rfl
  | failed report =>
      exact iff_of_false Bool.false_ne_true nofun

/-- A page is kept of failures only. -/
theorem failurePage?_progress {page : String} :
    (standing.progress count).failurePage? = some page ↔
      ∃ report, standing = .failed report ∧
        faultPage "Render Failed" report count = page := by
  cases standing with
  | pending =>
      exact iff_of_false nofun nofun
  | drawn =>
      exact iff_of_false nofun nofun
  | failed report =>
      simp [progress]

/-- Whatever is recorded for one standing becomes what is recorded for the
next. -/
theorem record_progress (standing : Standing)
    (few : count + 1 < wordCount 64) (result : Except Fault Unit) :
    (standing.progress count).record result =
      (ofResult result).progress (count + 1) := by
  have counted : min (count + 1) Progress.lastVersion = count + 1 := by
    rw [Progress.lastVersion]
    omega
  unfold Progress.record
  rw [version_progress, counted]
  cases result with
  | ok drawn =>
      rfl
  | error fault =>
      rfl

end

section

variable {results : List (Except Fault Unit)} {count : Nat}

theorem isDrawn_progress_ofResults :
    ((ofResults results).progress count).isDrawn = true ↔
      results.getLast? = some (.ok ()) := by
  rw [isDrawn_progress, ofResults]
  rcases results.getLast? with _ | fault | drawn
  · exact iff_of_false nofun nofun
  · exact iff_of_false nofun nofun
  · exact iff_of_true rfl rfl

theorem failurePage?_progress_ofResults {page : String} :
    ((ofResults results).progress count).failurePage? = some page ↔
      ∃ fault, results.getLast? = some (.error fault) ∧
        faultPage "Render Failed" fault.report count = page := by
  rw [failurePage?_progress, ofResults]
  rcases results.getLast? with _ | fault | drawn
  · exact iff_of_false nofun nofun
  · simp [ofResult]
  · exact iff_of_false nofun nofun

/-- A page is kept exactly while the last of the drawings has failed. -/
theorem isSome_failurePage?_iff :
    ((ofResults results).progress count).failurePage?.isSome = true ↔
      0 < results.length ∧
        ((ofResults results).progress count).isDrawn = false := by
  rw [List.length_pos_iff, ← List.getLast?_isSome, ofResults]
  rcases results.getLast? with _ | fault | drawn
  · exact iff_of_false nofun nofun
  · exact iff_of_true rfl ⟨rfl, rfl⟩
  · exact iff_of_false nofun nofun

end

end Standing

namespace Progress

variable {progress : Progress}

/-- Nothing stands in for the viewer exactly while a keymap is drawn. -/
theorem standIn?_eq_none_iff :
    progress.standIn? = none ↔ progress.isDrawn = true := by
  unfold standIn?
  cases progress.isDrawn with
  | true =>
      exact iff_of_true rfl rfl
  | false =>
      exact iff_of_false (Option.some_ne_none _) Bool.false_ne_true

theorem standIn?_of_none (undrawn : progress.isDrawn = false)
    (unkept : progress.failurePage? = none) :
    progress.standIn? =
      some (faultPage "Not Rendered" progress.summary progress.version) := by
  rw [standIn?, undrawn, unkept, if_neg Bool.false_ne_true, Option.getD_none]

theorem standIn?_of_some (undrawn : progress.isDrawn = false) {page : String}
    (kept : progress.failurePage? = some page) :
    progress.standIn? = some page := by
  rw [standIn?, undrawn, kept, if_neg Bool.false_ne_true, Option.getD_some]

end Progress

namespace Audience

/-- The audience after it has been told. -/
def hear (audience : Audience) (reload : Reload) : Audience :=
  (audience.announce reload).2

end Audience

/-- The news of drawings with these results, one for each and numbered from
one on. -/
def reloads (results : List (Except Fault Unit)) : List Reload :=
  results.mapIdx fun place result => ⟨place + 1, result.toBool⟩

theorem reloads_concat (results : List (Except Fault Unit))
    (result : Except Fault Unit) :
    reloads (results ++ [result]) =
      reloads results ++ [⟨results.length + 1, result.toBool⟩] := by
  rw [reloads, List.mapIdx_concat]
  rfl

/-- The news of a cycle. -/
def Cycle.reload (cycle : Cycle) : Reload := ⟨cycle.version, cycle.succeeded⟩

namespace Server

def Event.isCycle : Event → Bool
  | .cycle _ => true
  | .get _ => false

/-- The result of a drawing. -/
def resultOf? (server : Server (Instance μ ς) τ) :
    Event → Option (Except Fault Unit)
  | .cycle disk => some (server.draw disk).1
  | .get _ => none

/-- The results of the drawings, one after another. -/
def results : Server (Instance μ ς) τ → List Event →
    List (Except Fault Unit) :=
  observed step resultOf?

theorem after_append (server : Server (Instance μ ς) τ)
    (first second : List Event) :
    server.after (first ++ second) = (server.after first).after second :=
  List.foldl_append

theorem results_concat (server : Server (Instance μ ς) τ)
    (events : List Event) (event : Event) :
    server.results (events ++ [event]) =
      server.results events ++
        ((server.after events).resultOf? event).toList :=
  observed_concat server events event

theorem length_results (server : Server (Instance μ ς) τ)
    (events : List Event) :
    (server.results events).length = events.countP Event.isCycle := by
  refine length_observed (fun server event => ?_) server events
  cases event with
  | cycle disk =>
      rfl
  | get target =>
      rfl

/-! ## One event -/

/-- Requests can change the viewer and nothing else. -/
theorem exists_respond_eq (server : Server (Instance μ ς) τ)
    (target : String) :
    ∃ viewer, (server.respond target).2 = { server with viewer } := by
  unfold respond serveViewer
  simp only
  split
  · split
    · exact ⟨server.viewer, rfl⟩
    · exact ⟨_, rfl⟩
  · exact ⟨server.viewer, rfl⟩
  · exact ⟨server.viewer, rfl⟩
  · exact ⟨server.viewer, rfl⟩

theorem progress_respond (server : Server (Instance μ ς) τ)
    (target : String) :
    (server.respond target).2.progress = server.progress := by
  obtain ⟨viewer, same⟩ := server.exists_respond_eq target
  rw [same]

theorem audience_respond (server : Server (Instance μ ς) τ)
    (target : String) :
    (server.respond target).2.audience = server.audience := by
  obtain ⟨viewer, same⟩ := server.exists_respond_eq target
  rw [same]

theorem progress_draw (server : Server (Instance μ ς) τ) (disk : Disk) :
    (server.draw disk).2.progress = server.progress := by
  unfold draw
  split
  · rfl
  · rfl

theorem audience_draw (server : Server (Instance μ ς) τ) (disk : Disk) :
    (server.draw disk).2.audience = server.audience := by
  unfold draw
  split
  · rfl
  · rfl

theorem progress_cycle (server : Server (Instance μ ς) τ) (disk : Disk) :
    (server.cycle disk).2.progress =
      server.progress.record (server.draw disk).1 := by
  rw [← progress_draw server disk]
  rfl

theorem audience_cycle (server : Server (Instance μ ς) τ) (disk : Disk) :
    (server.cycle disk).2.audience =
      server.audience.hear (server.cycle disk).1.reload := by
  rw [← audience_draw server disk]
  rfl

theorem reload_cycle (server : Server (Instance μ ς) τ) (disk : Disk) :
    (server.cycle disk).1.reload =
      ⟨(server.cycle disk).2.progress.version,
        (server.draw disk).1.toBool⟩ := by
  unfold cycle
  rfl

/-! ## Requests for the page -/

/-- The target of a request for the page of the viewer, with any query. -/
def IsForViewer (target : String) : Prop :=
  (Request.splitTarget target).1 ∈ viewerPaths

instance (target : String) : Decidable (IsForViewer target) :=
  inferInstanceAs (Decidable (_ ∈ viewerPaths))

theorem respond_of_isForViewer {target : String}
    (forViewer : IsForViewer target) (server : Server (Instance μ ς) τ) :
    server.respond target =
      server.serveViewer (Request.splitTarget target).2 := by
  have route : ∀ path ∈ viewerPaths, Route.ofPath path = .viewer := by
    decide
  simp only [respond, route _ forViewer]

/-- While a keymap is drawn the page of the viewer is served. -/
theorem respond_of_isDrawn {server : Server (Instance μ ς) τ}
    (drawn : server.progress.isDrawn = true) {target : String}
    (forViewer : IsForViewer target) :
    ∃ response viewer,
      server.respond target = (response, { server with viewer }) ∧
      AnswersQuery server.viewer (Request.splitTarget target).2
        (response, viewer) := by
  rw [respond_of_isForViewer forViewer, serveViewer,
    Progress.standIn?_eq_none_iff.mpr drawn]
  exact ⟨_, _, rfl, viewerResponse_answersQuery _ server.viewer⟩

/-- The page that is served while the last of the drawings has failed, or
while there is none. -/
def standInPage (results : List (Except Fault Unit)) : String :=
  match results.getLast? with
  | some (.error fault) =>
    faultPage "Render Failed" fault.report results.length
  | _ => faultPage "Not Rendered" "The keymap has not been rendered yet." 0

theorem standInPage_of_error {results : List (Except Fault Unit)}
    {fault : Fault} (last : results.getLast? = some (.error fault)) :
    standInPage results =
      faultPage "Render Failed" fault.report results.length := by
  simp only [standInPage, last]

/-- A page that tells of the drawings: that there was none, or which number the
last one had and what it failed with. -/
inductive TellsOf : List (Except Fault Unit) → String → Prop
  | pending {page : String}
      (shows : ShowsFault "Not Rendered"
        "The keymap has not been rendered yet." 0 page) :
      TellsOf [] page
  | failed {results : List (Except Fault Unit)} {fault : Fault}
      {page : String} (last : results.getLast? = some (.error fault))
      (shows : ShowsFault "Render Failed" fault.report results.length page) :
      TellsOf results page

/-- The page that stands in tells of the drawings unless the last of them was
drawn. -/
theorem tellsOf_standInPage {results : List (Except Fault Unit)}
    (undrawn : results.getLast? ≠ some (.ok ())) :
    TellsOf results (standInPage results) := by
  rcases last : results.getLast? with _ | fault | drawn
  · obtain rfl := List.getLast?_eq_none_iff.mp last
    exact .pending (.of_written (toList_faultPage ..))
  · rw [standInPage_of_error last]
    exact .failed last (.of_written (toList_faultPage ..))
  · exact absurd last undrawn

theorem standIn?_progress_ofResults {results : List (Except Fault Unit)}
    (undrawn : results.getLast? ≠ some (.ok ())) :
    ((Standing.ofResults results).progress results.length).standIn? =
      some (standInPage results) := by
  rcases last : results.getLast? with _ | fault | drawn
  · obtain rfl := List.getLast?_eq_none_iff.mp last
    exact Progress.standIn?_of_none rfl rfl
  · have standing : Standing.ofResults results = .failed fault.report := by
      rw [Standing.ofResults, last]
      rfl
    rw [standing, standInPage_of_error last]
    exact Progress.standIn?_of_some rfl rfl
  · exact absurd last undrawn

/-- What a server shows of drawings with these results. -/
structure Shows (server : Server (Instance μ ς) τ)
    (results : List (Except Fault Unit)) : Prop where
  /-- The record agrees in all its parts on how the drawings stand. -/
  recorded : server.progress =
    (Standing.ofResults results).progress results.length
  version : server.progress.version = results.length
  isDrawn : server.progress.isDrawn = true ↔
    results.getLast? = some (.ok ())
  failurePage? : server.progress.failurePage?.isSome = true ↔
    0 < results.length ∧ server.progress.isDrawn = false
  /-- The page that is kept of a failure tells of it. -/
  keepsPage : ∀ page, server.progress.failurePage? = some page →
    TellsOf results page
  tells : server.progress.isDrawn = false →
    TellsOf results (standInPage results)
  standsIn : server.progress.isDrawn = false → ∀ target,
    IsForViewer target →
      server.respond target = (.page (standInPage results), server)
  answers : server.progress.isDrawn = true → ∀ target,
    IsForViewer target → ∃ response viewer,
      server.respond target = (response, { server with viewer }) ∧
      AnswersQuery server.viewer (Request.splitTarget target).2
        (response, viewer)
  keeps : ∀ target,
    (server.respond target).2.progress = server.progress ∧
      (server.respond target).2.audience = server.audience

theorem shows_of_recorded {server : Server (Instance μ ς) τ}
    {results : List (Except Fault Unit)}
    (recorded : server.progress =
      (Standing.ofResults results).progress results.length) :
    server.Shows results := by
  have isDrawn : server.progress.isDrawn = true ↔
      results.getLast? = some (.ok ()) := by
    rw [recorded, Standing.isDrawn_progress_ofResults]
  have undrawn (blank : server.progress.isDrawn = false) :
      results.getLast? ≠ some (.ok ()) := fun last => by
    rw [isDrawn.mpr last] at blank
    cases blank
  refine ⟨recorded, ?version, isDrawn, ?failurePage?, ?keepsPage,
    fun blank => tellsOf_standInPage (undrawn blank), ?standsIn,
    fun drawn target forViewer => respond_of_isDrawn drawn forViewer,
    fun target => ⟨progress_respond server target,
      audience_respond server target⟩⟩
  case version =>
    rw [recorded, Standing.version_progress]
  case failurePage? =>
    rw [recorded]
    exact Standing.isSome_failurePage?_iff
  case keepsPage =>
    intro page kept
    rw [recorded, Standing.failurePage?_progress_ofResults] at kept
    obtain ⟨fault, last, rfl⟩ := kept
    exact .failed last (.of_written (toList_faultPage ..))
  case standsIn =>
    intro blank target forViewer
    rw [respond_of_isForViewer forViewer, serveViewer, recorded,
      standIn?_progress_ofResults (undrawn blank)]

/-! ## Runs -/

section

variable {server : Server (Instance μ ς) τ}

theorem progress_after (start : server.progress = .start)
    {events : List Event}
    (few : events.countP Event.isCycle < wordCount 64) :
    (server.after events).progress =
      (Standing.ofResults (server.results events)).progress
        (server.results events).length := by
  induction events using List.reverseRecOn with
  | nil =>
      exact start
  | append_singleton earlier event inductionHypothesis =>
      rw [List.countP_append] at few
      have before := inductionHypothesis (by omega)
      rw [after_append, results_concat]
      cases event with
      | cycle disk =>
          have fewer : (server.results earlier).length + 1 < wordCount 64 := by
            rw [length_results]
            exact few
          change ((server.after earlier).cycle disk).2.progress = _
          rw [progress_cycle, before, Standing.record_progress _ fewer]
          simp [resultOf?, Standing.ofResults]
      | get target =>
          change ((server.after earlier).respond target).2.progress = _
          rw [progress_respond, before, resultOf?, Option.toList_none,
            List.append_nil]

theorem audience_after (start : server.progress = .start)
    {events : List Event}
    (few : events.countP Event.isCycle < wordCount 64) :
    (server.after events).audience =
      (reloads (server.results events)).foldl Audience.hear
        server.audience := by
  induction events using List.reverseRecOn with
  | nil =>
      rfl
  | append_singleton earlier event inductionHypothesis =>
      have last := progress_after start few
      rw [List.countP_append] at few
      have before := inductionHypothesis (by omega)
      rw [after_append, results_concat] at last ⊢
      cases event with
      | cycle disk =>
          change ((server.after earlier).cycle disk).2.progress = _ at last
          change ((server.after earlier).cycle disk).2.audience = _
          rw [audience_cycle, reload_cycle, before, last,
            Standing.version_progress]
          simp only [resultOf?, Option.toList_some, reloads_concat,
            List.foldl_append, List.length_append, List.foldl_cons,
            List.foldl_nil, List.length_singleton]
      | get target =>
          change ((server.after earlier).respond target).2.audience = _
          rw [audience_respond, before, resultOf?, Option.toList_none,
            List.append_nil]

end

/-- After any cycles and requests a server shows the results of its drawings,
and each drawing has been announced once, in order, with its number and its
outcome. -/
theorem after_shows (viewer : Viewer (Instance μ ς) τ) (keymap : String)
    (audience : Audience) (events : List Event)
    (few : events.countP Event.isCycle < wordCount 64) :
    let opened : Server (Instance μ ς) τ :=
      ⟨keymap, viewer, .start, audience⟩
    let results := opened.results events
    results.length = events.countP Event.isCycle ∧
      (opened.after events).Shows results ∧
      (opened.after events).audience =
        (reloads results).foldl Audience.hear audience :=
  ⟨length_results _ events, shows_of_recorded (progress_after rfl few),
    audience_after rfl few⟩

/-- A keymap that is gone leaves a page that tells so, in place of the one that
was drawn before. -/
theorem respond_after_crowdedHistory :
    ∃ (viewer : Viewer) (fault : Fault),
      Viewer.OpensPlain (echoDisk "") .default "/" viewer ∧
      crowdedHistory.countP Event.isCycle < wordCount 64 ∧
      readKeymap ⟨[], []⟩ "keymap" = .error fault ∧
      let server := (new viewer "keymap").after crowdedHistory
      server.progress.version = 2 ∧ server.progress.isDrawn = false ∧
        server.respond "/?layer=x" =
          (.page (faultPage "Render Failed" fault.report 2), server) := by
  have plain : Settings.default.viewer = .default := rfl
  obtain ⟨viewer, opens, -⟩ :=
    Viewer.openWith_echo plain rfl (bytes_echoDisk "" .offline)
  have few : crowdedHistory.countP Event.isCycle < wordCount 64 := by
    decide +kernel
  obtain ⟨fault, unread⟩ :
      ∃ fault, readKeymap ⟨[], []⟩ "keymap" = .error fault := ⟨_, rfl⟩
  obtain ⟨count, shown, -⟩ :
      ((new viewer "keymap").results crowdedHistory).length = 2 ∧
      ((new viewer "keymap").after crowdedHistory).Shows
        ((new viewer "keymap").results crowdedHistory) ∧ _ :=
    after_shows viewer "keymap" .empty crowdedHistory few
  -- The last of the drawings finds no keymap.
  have last : ((new viewer "keymap").results crowdedHistory).getLast? =
      some (.error fault) := by
    have split : crowdedHistory =
        crowdedHistory.dropLast ++ [.cycle ⟨[], []⟩] := rfl
    rw [split, results_concat, resultOf?, draw, keymap_after]
    simp only [new, unread, Option.toList_some, List.getLast?_append_cons,
      List.getLast?_singleton]
  have undrawn :
      ((new viewer "keymap").after crowdedHistory).progress.isDrawn =
        false := by
    rw [← Bool.not_eq_true, shown.isDrawn, last]
    simp
  refine ⟨viewer, fault, opens, few, unread, shown.version.trans count,
    undrawn, ?_⟩
  have answer := shown.standsIn undrawn "/?layer=x" (by decide +kernel)
  rwa [standInPage_of_error last, count] at answer

end Server

end Preview

end KeymapViewer
