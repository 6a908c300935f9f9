import KeymapViewer.Preview.Route
import KeymapViewer.Proofs.Stub.EchoViewer

/-!
Histories of a preview server. Drawings that succeed or fail and requests for
the page may come in any order and number; the next drawing that succeeds
overwrites all that they have left on the page.
-/

namespace KeymapViewer.Preview.Server

open Stub Text

/-- What happens to a server: the keymap is drawn as it is on a disk, or a
target is asked for. -/
inductive Event where
  | cycle (disk : Disk)
  | get (target : String)

section

variable {μ ς τ : Type} [Wasm.Runtime μ ς]

def step (server : Server (Instance μ ς) τ) : Event → Server (Instance μ ς) τ
  | .cycle disk => (server.cycle disk).2
  | .get target => (server.respond target).2

def after (server : Server (Instance μ ς) τ) (events : List Event) :
    Server (Instance μ ς) τ :=
  events.foldl step server

/-- There is a keymap on the disk, and the module returns markup for it. -/
def Draws (server : Server (Instance μ ς) τ) (disk : Disk) (markup : String) :
    Prop :=
  ∃ text client, readKeymap disk server.keymap = .ok text ∧
    server.viewer.drawing text = (.ok markup, client)

/-- The page as it is after a cycle. -/
def htmlAfter (server : Server (Instance μ ς) τ) (disk : Disk) : String :=
  (server.cycle disk).2.viewer.page.toHtml

variable {server : Server (Instance μ ς) τ}

theorem viewer_cycle (server : Server (Instance μ ς) τ) (disk : Disk) :
    (server.cycle disk).2.viewer = (server.draw disk).2.viewer := by
  unfold cycle
  rfl

theorem succeeded_cycle (server : Server (Instance μ ς) τ) (disk : Disk) :
    (server.cycle disk).1.succeeded = (server.draw disk).1.toBool := by
  unfold cycle
  rfl

theorem viewer_draw_of_unread {disk : Disk} {fault : Fault}
    (unread : readKeymap disk server.keymap = .error fault) :
    (server.draw disk).2.viewer = server.viewer := by
  rw [draw, unread]

theorem viewer_draw_of_read {disk : Disk} {text : String}
    (read : readKeymap disk server.keymap = .ok text) :
    (server.draw disk).2.viewer =
      (server.viewer.perform (Viewer.renderText text)).2 := by
  rw [draw, read]

/-! ## Framed servers -/

/-- A request changes the drawing on the page at most. -/
theorem respond_of_isFramed {state : Spinner}
    (framed : server.viewer.IsFramed state) (target : String) :
    ∃ page,
      (server.respond target).2.viewer = server.viewer.setPage page ∧
      page.Frames state := by
  have unchanged : ∃ page,
      server.viewer = server.viewer.setPage page ∧ page.Frames state :=
    ⟨server.viewer.page, rfl, framed.frames⟩
  have queried (query : String) : ∃ page,
      (server.serveViewer query).2.viewer = server.viewer.setPage page ∧
        page.Frames state := by
    have applied := framed.applyLayerQuery query
    unfold serveViewer viewerResponse
    split
    · exact unchanged
    · revert applied
      rcases server.viewer.perform (Viewer.applyLayerQuery query) with
        ⟨fault | layer, after⟩
      · exact id
      · exact id
  unfold respond
  simp only
  split
  · exact queried _
  · exact unchanged
  · exact unchanged
  · exact unchanged

section

variable [Wasm.LawfulRuntime μ]

/-- Whatever comes of a cycle, the page stays framed. -/
theorem isFramed_cycle {state : Spinner}
    (framed : server.viewer.IsFramed state) (disk : Disk) :
    ∃ next, (server.cycle disk).2.viewer.IsFramed next := by
  rw [viewer_cycle]
  cases read : readKeymap disk server.keymap with
  | error fault =>
      exact ⟨state, (viewer_draw_of_unread read).symm ▸ framed⟩
  | ok text =>
      rw [viewer_draw_of_read read]
      rcases drawn : server.viewer.drawing text with ⟨fault | markup, client⟩
      · obtain ⟨after, performed, framedAfter⟩ :=
          framed.renderText_of_error drawn
        exact ⟨.loading, by rw [performed]; exact framedAfter⟩
      · obtain ⟨after, page, performed, framedAfter, -⟩ :=
          framed.renderText_of_ok drawn
        exact ⟨.idle, by rw [performed]; exact framedAfter⟩

theorem isFramed_step {state : Spinner}
    (framed : server.viewer.IsFramed state) (event : Event) :
    ∃ next, (server.step event).viewer.IsFramed next := by
  cases event with
  | cycle disk =>
      exact isFramed_cycle framed disk
  | get target =>
      obtain ⟨page, same, frames⟩ := respond_of_isFramed framed target
      exact ⟨state, same ▸ framed.setPage frames⟩

theorem isFramed_after {state : Spinner}
    (framed : server.viewer.IsFramed state) (events : List Event) :
    ∃ last, (server.after events).viewer.IsFramed last := by
  induction events generalizing server state with
  | nil =>
      exact ⟨state, framed⟩
  | cons event rest inductionHypothesis =>
      obtain ⟨next, framedNext⟩ := isFramed_step framed event
      exact inductionHypothesis framedNext

/-- A cycle succeeds when the module returns markup, and then the page is that
of the markup. -/
theorem cycle_of_draws {state : Spinner} {disk : Disk} {markup : String}
    (framed : server.viewer.IsFramed state)
    (draws : server.Draws disk markup) :
    (server.cycle disk).1.succeeded = true ∧
      ∃ page, Viewer.drawnPage markup = .ok page ∧
        server.htmlAfter disk = page.toHtml := by
  obtain ⟨text, client, read, drawn⟩ := draws
  obtain ⟨after, page, performed, -, same, sameDocument, -⟩ :=
    framed.renderText_of_ok drawn
  constructor
  · rw [succeeded_cycle, draw, read]
    simp only [performed]
    rfl
  · refine ⟨page, same, ?_⟩
    have sameForest : after.page.forest = page.forest := by
      injection sameDocument
    rw [htmlAfter, viewer_cycle, viewer_draw_of_read read, performed,
      Page.toHtml, sameForest, Page.toHtml]

end

/-! ## Keymaps -/

theorem keymap_step (server : Server (Instance μ ς) τ) (event : Event) :
    (server.step event).keymap = server.keymap := by
  cases event with
  | cycle disk =>
      change (server.draw disk).2.keymap = server.keymap
      unfold draw
      split
      · rfl
      · rfl
  | get target =>
      change (server.respond target).2.keymap = server.keymap
      unfold respond serveViewer
      simp only
      split
      · split
        · rfl
        · rfl
      · rfl
      · rfl
      · rfl

theorem keymap_after (server : Server (Instance μ ς) τ)
    (events : List Event) :
    (server.after events).keymap = server.keymap := by
  induction events generalizing server with
  | nil =>
      rfl
  | cons event rest inductionHypothesis =>
      exact (inductionHypothesis _).trans (keymap_step server event)

end

/-! ## Servers with the stub -/

section

/-- How far the heap of the stub reaches after an event: only a keymap that can
be read moves its end. -/
def heapAfter (keymap : String) (heap : Nat) : Event → Nat
  | .cycle disk =>
    match readKeymap disk keymap with
    | .ok text => echoEnd heap text
    | .error _ => heap
  | .get _ => heap

theorem heapAfter_of_read {disk : Disk} {keymap text : String}
    (read : readKeymap disk keymap = .ok text) (heap : Nat) :
    heapAfter keymap heap (.cycle disk) = echoEnd heap text := by
  simp only [heapAfter, read]

theorem heapAfter_of_unread {disk : Disk} {keymap : String} {fault : Fault}
    (unread : readKeymap disk keymap = .error fault) (heap : Nat) :
    heapAfter keymap heap (.cycle disk) = heap := by
  simp only [heapAfter, unread]

theorem le_heapAfter (keymap : String) (heap : Nat) (event : Event) :
    heap ≤ heapAfter keymap heap event := by
  unfold heapAfter
  split
  · split
    · exact le_foldl_echoEnd heap [_]
    · exact le_rfl
  · exact le_rfl

theorem le_foldl_heapAfter (keymap : String) (heap : Nat)
    (events : List Event) : heap ≤ events.foldl (heapAfter keymap) heap := by
  induction events generalizing heap with
  | nil =>
      exact le_rfl
  | cons event rest inductionHypothesis =>
      exact (le_heapAfter keymap heap event).trans (inductionHypothesis _)

variable {server : Server} {state : Spinner} {heap : Nat}

theorem isEchoing_step (echoing : server.viewer.IsEchoing state heap)
    {event : Event}
    (fits : heapAfter server.keymap heap event ≤ heapLimit) :
    ∃ next, (server.step event).viewer.IsEchoing next
      (heapAfter server.keymap heap event) := by
  cases event with
  | get target =>
      obtain ⟨page, same, frames⟩ :=
        respond_of_isFramed echoing.toIsFramed target
      exact ⟨state, same ▸ echoing.setPage frames⟩
  | cycle disk =>
      change ∃ next, (server.cycle disk).2.viewer.IsEchoing next _
      rw [viewer_cycle]
      cases read : readKeymap disk server.keymap with
      | error fault =>
          rw [heapAfter_of_unread read, viewer_draw_of_unread read]
          exact ⟨state, echoing⟩
      | ok text =>
          rw [heapAfter_of_read read] at fits ⊢
          obtain ⟨after, performed, echoingAfter⟩ := echoing.renderText fits
          rw [viewer_draw_of_read read, performed]
          exact ⟨.idle, echoingAfter⟩

/-- The stub goes on for as long as its heap has room for the keymaps. -/
theorem isEchoing_after (echoing : server.viewer.IsEchoing state heap)
    {events : List Event}
    (fits : events.foldl (heapAfter server.keymap) heap ≤ heapLimit) :
    ∃ last, (server.after events).viewer.IsEchoing last
      (events.foldl (heapAfter server.keymap) heap) := by
  induction events generalizing server state heap with
  | nil =>
      exact ⟨state, echoing⟩
  | cons event rest inductionHypothesis =>
      obtain ⟨next, echoingNext⟩ :=
        isEchoing_step echoing ((le_foldl_heapAfter ..).trans fits)
      have same := keymap_step server event
      have fitsRest : rest.foldl (heapAfter (server.step event).keymap)
          (heapAfter server.keymap heap event) ≤ heapLimit := by
        rw [same]
        exact fits
      obtain ⟨last, echoingLast⟩ := inductionHypothesis echoingNext fitsRest
      rw [same] at echoingLast
      exact ⟨last, echoingLast⟩

/-- After any events that the heap has room for, a keymap is drawn as it is on
the disk, up to its first character zero. -/
theorem draws_after_of_isEchoing
    (echoing : server.viewer.IsEchoing state heap) {events : List Event}
    {disk : Disk} {text : String}
    (read : readKeymap disk server.keymap = .ok text)
    (fits : echoEnd (events.foldl (heapAfter server.keymap) heap) text ≤
      heapLimit) :
    (server.after events).Draws disk (upToNul text) := by
  obtain ⟨last, echoingLast⟩ := isEchoing_after echoing
    ((le_foldl_echoEnd _ [text]).trans fits)
  obtain ⟨client, drawn, -⟩ := echoingLast.drawing fits
  exact ⟨text, client, by rw [keymap_after, read], drawn⟩

/-- A disk with a keymap and with the stub. -/
def echoDisk (keymap : String) : Disk :=
  { nodes := [
      (["ergoweb.wasm"], .file (Kind.binary .cString)),
      (["keymap"], .file (Utf8.encode keymap))]
    workingDirectory := [] }

theorem readKeymap_of_text {disk : Disk} {keymap text : String}
    (read : disk.read keymap = .ok (Utf8.encode text)) :
    readKeymap disk keymap = .ok text := by
  simp only [readKeymap, Disk.readText, read, bind, Except.bind,
    Utf8.decode_encode]
  rfl

theorem readKeymap_echoDisk (text : String) :
    readKeymap (echoDisk text) "keymap" = .ok text :=
  readKeymap_of_text rfl

theorem bytes_of_path {disk : Disk} {network : Network} {name path : String}
    {bytes : Bytes} (near : Fetch.isRemote name = false)
    (leads : Fetch.path "/" name = path) (read : disk.read path = .ok bytes) :
    Fetch.bytes disk "/" network name = .ok bytes := by
  simp only [Fetch.bytes, near, leads, read, Except.mapError,
    Bool.false_eq_true, if_false]

theorem bytes_of_read {disk : Disk} {network : Network} {binary : Bytes}
    (read : disk.read "/ergoweb.wasm" = .ok binary) :
    Fetch.bytes disk "/" network "ergoweb.wasm" = .ok binary :=
  bytes_of_path (by decide +kernel) (by decide +kernel) read

theorem bytes_echoDisk (text : String) (network : Network) :
    Fetch.bytes (echoDisk text) "/" network "ergoweb.wasm" =
      .ok (Kind.binary .cString) :=
  bytes_of_read rfl

theorem bytes_keymap_echoDisk (text : String) (network : Network) :
    Fetch.bytes (echoDisk text) "/" network "keymap" =
      .ok (Utf8.encode text) := by
  have leads : Fetch.path "/" "keymap" = "/keymap" := by
    decide +kernel
  exact bytes_of_path (by decide +kernel) leads rfl

end

/-! ## Histories -/

/-- Whatever was drawn before, whatever failed and whichever layers were asked
for, a cycle whose module returns markup succeeds, and the page is known from
this markup alone: it is the built-in page with the markup, and so that of any
other server of the kind that draws the same markup in its first cycle. This
holds on every lawful runtime. -/
theorem htmlAfter_of_history {μ ς : Type} [Wasm.Runtime μ ς]
    [Wasm.LawfulRuntime μ] {disk : Disk} {settings : Settings} {base : String}
    {network : Network} {viewer : Viewer (Instance μ ς)}
    (opens : Viewer.OpensPlain disk settings base viewer network)
    (keymap : String) (events : List Event) {now : Disk} {markup : String}
    (draws : ((new viewer keymap).after events).Draws now markup) :
    (((new viewer keymap).after events).cycle now).1.succeeded = true ∧
      (∃ page, Viewer.drawnPage markup = .ok page ∧
        ((new viewer keymap).after events).htmlAfter now = page.toHtml) ∧
      ∀ otherDisk otherSettings otherBase otherNetwork
        (fresh : Viewer (Instance μ ς)),
        Viewer.OpensPlain otherDisk otherSettings otherBase fresh
          otherNetwork →
        ∀ otherKeymap first, (new fresh otherKeymap).Draws first markup →
          ((new viewer keymap).after events).htmlAfter now =
            (new fresh otherKeymap).htmlAfter first := by
  have framedNew : (new viewer keymap).viewer.IsFramed .idle :=
    opens.isFramed
  obtain ⟨last, framed⟩ := isFramed_after framedNew events
  obtain ⟨succeeded, page, drawn, same⟩ := cycle_of_draws framed draws
  refine ⟨succeeded, ⟨page, drawn, same⟩, ?_⟩
  intro otherDisk otherSettings otherBase otherNetwork fresh opensFresh
    otherKeymap first drawsFirst
  have framedFresh : (new fresh otherKeymap).viewer.IsFramed .idle :=
    opensFresh.isFramed
  obtain ⟨-, other, otherDrawn, otherSame⟩ :=
    cycle_of_draws framedFresh drawsFirst
  obtain rfl := Except.ok.inj (drawn.symm.trans otherDrawn)
  exact same.trans otherSame.symm

/-- Markup with ids of the page's own elements, a layer that was asked for and
a disk without a keymap. -/
def crowdedHistory : List Event := [
  .cycle (echoDisk "<g id=layer1><b id=spinny></b><i id=keymap></i></g>"),
  .get "/?layer=1",
  .cycle ⟨[], []⟩]

theorem htmlAfter_of_crowdedHistory :
    ∃ viewer : Viewer,
      Viewer.OpensPlain (echoDisk "") .default "/" viewer ∧
      ((new viewer "keymap").after crowdedHistory).Draws
        (echoDisk "<i></i>") "<i></i>" ∧
      (new viewer "keymap").Draws (echoDisk "<i></i>") "<i></i>" ∧
      ((new viewer "keymap").after crowdedHistory).htmlAfter
          (echoDisk "<i></i>") =
        (new viewer "keymap").htmlAfter (echoDisk "<i></i>") := by
  have plain : Settings.default.viewer = .default := rfl
  obtain ⟨viewer, opens, echoing⟩ :=
    Viewer.openWith_echo plain rfl (bytes_echoDisk "" .offline)
  have whole : upToNul "<i></i>" = "<i></i>" := by
    decide +kernel
  have draws (events : List Event)
      (fits : echoEnd (events.foldl (heapAfter "keymap") heapStart.toNat)
        "<i></i>" ≤ heapLimit) :
      ((new viewer "keymap").after events).Draws (echoDisk "<i></i>")
        "<i></i>" := by
    have echoingNew : (new viewer "keymap").viewer.IsEchoing .idle
        heapStart.toNat := echoing
    have drawn := draws_after_of_isEchoing echoingNew
      (readKeymap_echoDisk "<i></i>") fits
    rwa [whole] at drawn
  have last := draws crowdedHistory (by decide +kernel)
  have first := draws [] (by decide +kernel)
  obtain ⟨-, -, same⟩ := htmlAfter_of_history opens "keymap" crowdedHistory last
  exact ⟨viewer, opens, last, first, same _ _ _ _ _ opens _ _ first⟩

end KeymapViewer.Preview.Server
