import KeymapViewer.Proofs.Preview.Progress

/-!
Requests in between the steps of cycles. A cycle draws in one step and records
what came of it in another; a request looks at the record in one step and takes
the page in another. A drawing between the two steps of a request can leave a
page that the request was not let in for.
-/

namespace KeymapViewer.Preview

namespace Server

/-- What a cycle does once it has drawn. -/
def finish (result : Except Fault Unit) (server : Server) : Cycle × Server :=
  let server := server.record result
  let version := server.progress.version
  let (notified, server) := server.announce ⟨version, result.toBool⟩
  (⟨version, result.toBool, notified⟩, server)

theorem cycle_eq_finish (server : Server) (disk : Disk) :
    server.cycle disk =
      (server.draw disk).2.finish (server.draw disk).1 :=
  rfl

/-- Whether the text on a disk comes out, if there is one that can be drawn. -/
def textComesOut? (server : Server) (disk : Disk) : Option Bool :=
  match readKeymap disk server.keymap with
  | .error _ => none
  | .ok text =>
    some (server.viewer.perform (Viewer.renderText text)).1.toBool

theorem textComesOut?_of_draw {server : Server} {disk : Disk}
    (drawn : (server.draw disk).1 = .ok ()) :
    server.textComesOut? disk = some true := by
  unfold draw at drawn
  unfold textComesOut?
  cases read : readKeymap disk server.keymap with
  | error fault =>
      rw [read] at drawn
      cases drawn
  | ok text =>
      simp only [read] at drawn
      simp only [drawn]
      rfl

end Server

/-! ## Steps -/

/-- A request that was let in when the keymap was drawn, and does not have its
page yet. -/
structure Admission where
  query : String
  /-- The number of texts that were drawn in the cycles on record. -/
  known : Nat
  deriving DecidableEq, Repr

/-- A server between the steps of cycles and requests. -/
structure Traffic where
  server : Server
  /-- What came of a drawing that is not on record yet. -/
  unrecorded : Option (Except Fault Unit)
  admissions : List Admission
  /-- Whether the texts that were drawn have come out, one after another. -/
  texts : List Bool
  /-- The number of texts that were drawn in the cycles on record. -/
  known : Nat

namespace Traffic

inductive Action where
  | draw (disk : Disk)
  | record
  | look (query : String)
  /-- The page for the request at this place of the admissions. -/
  | serve (place : Nat)

def opened (viewer : Viewer) (keymap : String) : Traffic :=
  ⟨.new viewer keymap, none, [], [], 0⟩

/-- A cycle draws, once the one before it is on record. -/
def draw (disk : Disk) (traffic : Traffic) : Traffic :=
  match traffic.unrecorded with
  | some _ => traffic
  | none =>
    let (result, server) := traffic.server.draw disk
    { traffic with
      server
      unrecorded := some result
      texts := traffic.texts ++ (traffic.server.textComesOut? disk).toList }

def record (traffic : Traffic) : Traffic :=
  match traffic.unrecorded with
  | none => traffic
  | some result =>
    { traffic with
      server := (traffic.server.finish result).2
      unrecorded := none
      known := traffic.texts.length }

/-- A request looks at the record, and is let in if the keymap is drawn. -/
def look (query : String) (traffic : Traffic) : Traffic :=
  match traffic.server.progress.standIn? with
  | some _ => traffic
  | none =>
    { traffic with
      admissions := traffic.admissions ++ [⟨query, traffic.known⟩] }

/-- A request that was let in gets its page. -/
def serve (place : Nat) (traffic : Traffic) : Traffic :=
  match traffic.admissions[place]? with
  | none => traffic
  | some admission =>
    let viewer := (viewerResponse admission.query traffic.server.viewer).2
    { traffic with
      server := { traffic.server with viewer }
      admissions := traffic.admissions.eraseIdx place }

def step (traffic : Traffic) : Action → Traffic
  | .draw disk => traffic.draw disk
  | .record => traffic.record
  | .look query => traffic.look query
  | .serve place => traffic.serve place

def run (traffic : Traffic) (actions : List Action) : Traffic :=
  actions.foldl step traffic

/-- What a step sends to a client. -/
def response? (traffic : Traffic) : Action → Option Response
  | .look _ => traffic.server.progress.standIn?.map Response.page
  | .serve place => traffic.admissions[place]?.map fun admission =>
    (viewerResponse admission.query traffic.server.viewer).1
  | _ => none

/-! ## Without interruption -/

variable {traffic : Traffic}

/-- The two steps of a cycle, one after the other. -/
theorem server_draw_record (idle : traffic.unrecorded = none) (disk : Disk) :
    (traffic.draw disk).record.server = (traffic.server.cycle disk).2 := by
  rw [Server.cycle_eq_finish]
  simp only [draw, record, idle]

/-- The two steps of a request, one after the other. -/
theorem server_look_serve (query : String) :
    let last := traffic.admissions.length
    ((traffic.look query).serve last).server =
        (traffic.server.serveViewer query).2 ∧
      (traffic.response? (.look query)).or
          ((traffic.look query).response? (.serve last)) =
        some (traffic.server.serveViewer query).1 := by
  unfold Server.serveViewer
  cases standIn : traffic.server.progress.standIn? with
  | some page =>
      simp [look, serve, response?, standIn]
  | none =>
      simp [look, serve, response?, standIn]

/-! ## What requests know -/

/-- The last of the first texts has come out. -/
def CameOut (texts : List Bool) (count : Nat) : Prop :=
  count ≤ texts.length ∧ (texts.take count).getLast? = some true

theorem CameOut.append {texts : List Bool} {count : Nat}
    (cameOut : CameOut texts count) (more : List Bool) :
    CameOut (texts ++ more) count := by
  obtain ⟨few, last⟩ := cameOut
  constructor
  · rw [List.length_append]
    omega
  · rwa [List.take_append_of_le_length few]

/-- A later text decides when the last of the first ones has come out. -/
theorem CameOut.getLast?_eq_some_false_iff {texts : List Bool} {count : Nat}
    (cameOut : CameOut texts count) :
    texts.getLast? = some false ↔
      (texts.drop count).getLast? = some false := by
  conv_lhs => rw [← List.take_append_drop count texts, List.getLast?_append,
    cameOut.2]
  cases (texts.drop count).getLast? with
  | none =>
      simp
  | some last =>
      simp

/-- What is on record, and what requests were let in for, are texts that have
come out. -/
structure Sound (traffic : Traffic) : Prop where
  recorded : traffic.server.progress.isDrawn = true →
    CameOut traffic.texts traffic.known
  unrecorded : traffic.unrecorded = some (.ok ()) →
    traffic.texts.getLast? = some true
  admitted : ∀ admission ∈ traffic.admissions,
    CameOut traffic.texts admission.known

theorem sound_opened (viewer : Viewer) (keymap : String) :
    (opened viewer keymap).Sound where
  recorded drawn := by cases drawn
  unrecorded drawn := by cases drawn
  admitted _ member := by cases member

theorem Sound.draw (sound : traffic.Sound) (disk : Disk) :
    (traffic.draw disk).Sound := by
  unfold Traffic.draw
  cases idle : traffic.unrecorded with
  | some result =>
      exact sound
  | none =>
      exact {
        recorded := fun drawn =>
          (sound.recorded ((congrArg Progress.isDrawn
            (traffic.server.progress_draw disk)).symm.trans drawn)).append _
        unrecorded := by
          intro drawn
          rw [Server.textComesOut?_of_draw (Option.some.inj drawn)]
          exact List.getLast?_concat
        admitted := fun admission member =>
          (sound.admitted admission member).append _ }

theorem Sound.record (sound : traffic.Sound) :
    traffic.record.Sound := by
  unfold Traffic.record
  cases waiting : traffic.unrecorded with
  | none =>
      exact sound
  | some result =>
      refine ⟨fun drawn => ?_, (fun drawn => by cases drawn), sound.admitted⟩
      have came : result.toBool = true :=
        (traffic.server.progress.isDrawn_record result).symm.trans drawn
      cases result with
      | error fault =>
          cases came
      | ok drawn =>
          refine ⟨le_rfl, ?_⟩
          rw [List.take_length]
          exact sound.unrecorded waiting

theorem Sound.look (sound : traffic.Sound) (query : String) :
    (traffic.look query).Sound := by
  unfold Traffic.look
  cases standIn : traffic.server.progress.standIn? with
  | some page =>
      exact sound
  | none =>
      refine ⟨sound.recorded, sound.unrecorded, ?_⟩
      intro admission member
      rcases List.mem_append.mp member with before | new
      · exact sound.admitted admission before
      · obtain rfl := List.mem_singleton.mp new
        exact sound.recorded (Progress.standIn?_eq_none_iff.mp standIn)

theorem Sound.serve (sound : traffic.Sound) (place : Nat) :
    (traffic.serve place).Sound := by
  unfold Traffic.serve
  cases traffic.admissions[place]? with
  | none =>
      exact sound
  | some admission =>
      exact ⟨sound.recorded, sound.unrecorded, fun other member =>
        sound.admitted other (List.mem_of_mem_eraseIdx member)⟩

theorem Sound.step (sound : traffic.Sound) (action : Action) :
    (traffic.step action).Sound := by
  cases action with
  | draw disk =>
      exact sound.draw disk
  | record =>
      exact sound.record
  | look query =>
      exact sound.look query
  | serve place =>
      exact sound.serve place

theorem Sound.run (sound : traffic.Sound) (actions : List Action) :
    (traffic.run actions).Sound := by
  induction actions generalizing traffic with
  | nil =>
      exact sound
  | cons action rest inductionHypothesis =>
      exact inductionHypothesis (sound.step action)

/-! ## A race -/

/-- A request looks when a keymap is drawn, and the next drawing starts before
it has its page. -/
def race (first second : Disk) (query : String) : List Action :=
  [.draw first, .record, .look query, .draw second]

/-- Whenever a text fails after one that has come out, a request can get the
page of the failed one. -/
theorem run_race {viewer between after : Viewer} {keymap : String}
    {first second : Disk} {text failing : String} {fault : Fault}
    (readFirst : Server.readKeymap first keymap = .ok text)
    (drawn : viewer.perform (Viewer.renderText text) = (.ok (), between))
    (readSecond : Server.readKeymap second keymap = .ok failing)
    (failed : between.perform (Viewer.renderText failing) =
      (.error fault, after)) (query : String) :
    ∃ server, (opened viewer keymap).run (race first second query) =
        ⟨server, some (.error fault), [⟨query, 1⟩], [true, false], 1⟩ ∧
      server.viewer = after := by
  have once : (opened viewer keymap).draw first =
      ⟨⟨keymap, between, .start, .empty⟩, some (.ok ()), [], [true], 0⟩ := by
    simp only [draw, opened, Server.new, Server.draw, Server.textComesOut?,
      readFirst, drawn]
    rfl
  have admitted : ((opened viewer keymap).draw first).record.look query =
      ⟨(Server.finish (.ok ()) ⟨keymap, between, .start, .empty⟩).2, none,
        [⟨query, 1⟩], [true], 1⟩ := by
    rw [once]
    rfl
  simp only [race, run, List.foldl_cons, List.foldl_nil, step, admitted]
  simp only [draw, Server.draw, Server.textComesOut?, Server.finish,
    Server.record, Server.announce, Server.withAudience, readSecond, failed]
  exact ⟨_, rfl, rfl⟩

section Narrow

open Stub Text

/-- A page with the spinner inside the drawing. -/
def narrowTemplate : String :=
  "<p id=layer0></p><div id=keymap><b id=spinny></b></div>"

/-- A disk with that page and with the stub. -/
def narrowDisk : Disk :=
  { nodes := [
      (["ergoweb.wasm"], .file (Kind.binary .cString)),
      (["page.html"], .file (Utf8.encode narrowTemplate))]
    workingDirectory := [] }

def narrowSettings : Settings :=
  { Settings.default with
    viewer := { ViewerSettings.default with template := some "page.html" } }

theorem loadPage_narrow :
    Viewer.loadPage narrowDisk narrowSettings.viewer =
      .ok (.parse narrowTemplate) := by
  have read : narrowDisk.read "page.html" =
      .ok (Utf8.encode narrowTemplate) := rfl
  simp only [Viewer.loadPage, narrowSettings, Disk.readText, read, bind,
    Except.bind, Utf8.decode_encode]
  rfl

/-- The markup that keeps the spinner. -/
def spinnerMarkup : String := "<b id=spinny></b>"

/-- The page with two drawings on it, before the spinner goes the second
time. -/
def narrowPage : Except Fault Page := do
  let marked ←
    Viewer.markLayers narrowSettings.viewer [0] (.parse narrowTemplate)
  let first ← Viewer.drawOn narrowSettings.viewer spinnerMarkup marked
  let settled ← Viewer.hideSpinner narrowSettings.viewer first
  Viewer.drawOn narrowSettings.viewer "x" settled

/-- The second drawing takes the spinner away, so that it cannot be hidden. -/
theorem hideSpinner_narrowPage :
    narrowPage.toOption.map
      (fun page => (Viewer.hideSpinner narrowSettings.viewer page).isOk) =
        some false := by
  decide +kernel

theorem exists_narrowViewer {marked : Page}
    (marking : Viewer.markLayers narrowSettings.viewer [0]
      (.parse narrowTemplate) = .ok marked) :
    ∃ client : Client, client.Echoing heapStart.toNat ∧
      client.running.budget = defaultBudget ∧ client.page = marked ∧
      Viewer.openWith narrowDisk narrowSettings "/" =
        .ok (.new client narrowSettings.viewer) := by
  obtain ⟨contract, abi, instantiated⟩ :=
    starts_cString.instantiateWith defaultBudget (.parse narrowTemplate)
  let client := Client.startedEcho contract (.parse narrowTemplate)
  have loaded : Viewer.loadClient (Fetch.bytes narrowDisk "/")
      narrowSettings.module.path narrowSettings.module.entry
      (.parse narrowTemplate) = .ok client := by
    have found : Fetch.bytes narrowDisk "/" .offline
        narrowSettings.module.path =
          .ok (Kind.binary .cString) := Server.bytes_of_read rfl
    rw [Viewer.loadClient, found]
    exact instantiated
  have performed : (Viewer.new client narrowSettings.viewer).perform
      Viewer.onLoad =
        (.ok (), .new (client.setPage marked) narrowSettings.viewer) := by
    have page : (Viewer.new client narrowSettings.viewer).page =
        .parse narrowTemplate := rfl
    have settings : (Viewer.new client narrowSettings.viewer).settings =
        narrowSettings.viewer := rfl
    have known : (Page.parse narrowTemplate).contains
        (narrowSettings.viewer.layerId 0) = true := by
      decide +kernel
    rw [Viewer.perform_onLoad, page, settings, if_pos known, marking]
    rfl
  refine ⟨client.setPage marked,
    (Client.echoing_startedEcho abi _).setPage marked, rfl, rfl, ?_⟩
  simp only [Viewer.openWith, loadPage_narrow, bind, Except.bind, loaded,
    performed]
  rfl

theorem renderText_narrow {client : Client} {heap : Nat}
    (echoing : client.Echoing heap)
    (budget : client.running.budget = defaultBudget) {text : String}
    (fits : echoEnd heap text ≤ heapLimit) (whole : upToNul text = text)
    {page : Page}
    (drawn : Viewer.drawOn narrowSettings.viewer text client.page =
      .ok page) :
    ∃ after : Client, after.Echoing (echoEnd heap text) ∧
      after.running.budget = defaultBudget ∧
      (Viewer.new client narrowSettings.viewer).perform
          (Viewer.renderText text) =
        match Viewer.hideSpinner narrowSettings.viewer page with
        | .ok settled =>
          (.ok (), .new (after.setPage settled) narrowSettings.viewer)
        | .error fault =>
          (.error fault, .new (after.setPage page) narrowSettings.viewer) :=
  let viewer := Viewer.new client narrowSettings.viewer
  have drawnWhole : Viewer.drawOn viewer.settings (upToNul text) viewer.page =
      .ok page := whole.symm ▸ drawn
  Viewer.renderText_of_drawOn echoing budget fits drawnWhole

/-- A drawing that keeps the spinner, and then one without it. -/
def narrowRace : List Action :=
  race (Server.echoDisk spinnerMarkup) (Server.echoDisk "x") ""

/-- The second drawing has failed when the request takes its page. -/
theorem run_narrowRace :
    ∃ viewer, Viewer.openWith narrowDisk narrowSettings "/" = .ok viewer ∧
      ((opened viewer "keymap").run narrowRace).texts = [true, false] ∧
      ((opened viewer "keymap").run narrowRace).admissions = [⟨"", 1⟩] := by
  obtain ⟨second, made, stuck⟩ :=
    Option.map_eq_some_iff.mp hideSpinner_narrowPage
  have drawn := ok_of_toOption made
  obtain ⟨marked, marking, drawn⟩ := exists_of_bind_eq_ok drawn
  obtain ⟨first, drawnFirst, drawn⟩ := exists_of_bind_eq_ok drawn
  obtain ⟨settled, hidden, drawnSecond⟩ := exists_of_bind_eq_ok drawn
  obtain ⟨client, echoing, budget, page, opening⟩ :=
    exists_narrowViewer marking
  rw [← page] at drawnFirst
  obtain ⟨between, echoingBetween, budgetBetween, performedFirst⟩ :=
    renderText_narrow echoing budget (by decide +kernel) (by decide +kernel)
      drawnFirst
  simp only [hidden] at performedFirst
  obtain ⟨after, -, -, performedSecond⟩ :=
    renderText_narrow (echoingBetween.setPage settled) budgetBetween
      (by decide +kernel) (by decide +kernel) drawnSecond
  obtain ⟨fault, missing⟩ : ∃ fault,
      Viewer.hideSpinner narrowSettings.viewer second = .error fault := by
    cases gone : Viewer.hideSpinner narrowSettings.viewer second with
    | error fault =>
        exact ⟨fault, rfl⟩
    | ok page =>
        rw [gone] at stuck
        cases stuck
  simp only [missing] at performedSecond
  obtain ⟨server, ran, -⟩ :=
    run_race (Server.readKeymap_echoDisk spinnerMarkup) performedFirst
      (Server.readKeymap_echoDisk "x") performedSecond ""
  refine ⟨_, opening, ?_⟩
  rw [narrowRace, ran]
  exact ⟨rfl, rfl⟩

end Narrow

/-! ## Pages of failed texts -/

/-- Whoever was let in is served from the viewer as it is then, after whatever
steps. The last text that was drawn there has failed if and only if texts were
drawn that were not on record when the request looked, and the last of these has
failed. -/
theorem serve_of_failed_text_iff (viewer : Viewer) (keymap : String)
    (actions : List Action) {place : Nat} {admission : Admission}
    (there : ((opened viewer keymap).run actions).admissions[place]? =
      some admission) :
    let traffic := (opened viewer keymap).run actions
    (∃ response, traffic.response? (.serve place) = some response ∧
        AnswersQuery traffic.server.viewer admission.query
          (response, (traffic.serve place).server.viewer)) ∧
      traffic.texts ≠ [] ∧
      (traffic.texts.getLast? = some false ↔
        (traffic.texts.drop admission.known).getLast? = some false) := by
  intro traffic
  have sound : traffic.Sound := (sound_opened viewer keymap).run actions
  have cameOut := sound.admitted admission (List.mem_of_getElem? there)
  refine ⟨⟨(viewerResponse admission.query traffic.server.viewer).1, ?_, ?_⟩,
    ?_, cameOut.getLast?_eq_some_false_iff⟩
  · rw [response?, there]
    rfl
  · rw [serve, there]
    exact viewerResponse_answersQuery admission.query traffic.server.viewer
  · intro noText
    obtain ⟨-, last⟩ := cameOut
    rw [noText, List.take_nil] at last
    cases last

theorem serve_of_failed_text_narrowRace :
    ∃ viewer, Viewer.openWith narrowDisk narrowSettings "/" = .ok viewer ∧
      let traffic := (opened viewer "keymap").run narrowRace
      traffic.admissions[0]? = some ⟨"", 1⟩ ∧
      (∃ response, traffic.response? (.serve 0) = some response ∧
        AnswersQuery traffic.server.viewer ""
          (response, (traffic.serve 0).server.viewer)) ∧
      traffic.texts.drop 1 = [false] ∧
      traffic.texts.getLast? = some false := by
  obtain ⟨viewer, opening, texts, admissions⟩ := run_narrowRace
  have there : ((opened viewer "keymap").run narrowRace).admissions[0]? =
      some ⟨"", 1⟩ := by
    rw [admissions]
    rfl
  have unseen : ((opened viewer "keymap").run narrowRace).texts.drop 1 =
      [false] := by
    rw [texts]
    rfl
  obtain ⟨answered, -, failed⟩ :=
    serve_of_failed_text_iff viewer "keymap" narrowRace there
  exact ⟨viewer, opening, there, answered, unseen,
    failed.mpr (congrArg List.getLast? unseen)⟩

/-- A page of the viewer is served although its last text has failed. -/
theorem page_of_failed_text :
    ∃ viewer, Viewer.openWith narrowDisk narrowSettings "/" = .ok viewer ∧
      let traffic := (opened viewer "keymap").run narrowRace
      traffic.texts.getLast? = some false ∧
        traffic.response? (.serve 0) = some
          (.page (withReloadScript traffic.server.viewer.page.toHtml)) := by
  obtain ⟨viewer, opening, texts, admissions⟩ := run_narrowRace
  refine ⟨viewer, opening, by rw [texts]; rfl, ?_⟩
  rw [response?, admissions]
  have unasked : Viewer.queryValue? "" Viewer.layerVariable = none := by
    decide +kernel
  simp only [List.getElem?_cons_zero, Option.map_some, viewerResponse,
    Viewer.applyLayerQuery, unasked]
  rfl

end Traffic

end KeymapViewer.Preview
