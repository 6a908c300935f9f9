import KeymapViewer.Client
import KeymapViewer.Proofs.Exchange.Recorded

/-!
Requests to a client, and clients whose guest is recorded. A recorded client
answers a request as the client itself does, and its record shows the calls
that the request has made.
-/

namespace KeymapViewer

open Text Wasm

/-- What a client can be asked for. -/
inductive Request where
  | markup (text : String)
  | into (text id : String)
  deriving DecidableEq, Repr

namespace Request

/-- The sizes of the blocks that a request needs at most, in order. -/
def sizes : Request → List Nat
  | .markup text => [byteLength text + 1]
  | .into text id => [byteLength text + 1, byteLength id + 1]

/-- No text of the request has more than `2 ^ 32 - 2` bytes. -/
def Short (request : Request) : Prop :=
  ∀ size ∈ request.sizes, size < wordCount 32

instance (request : Request) : Decidable request.Short :=
  inferInstanceAs (Decidable (∀ size ∈ request.sizes, size < wordCount 32))

end Request

namespace Recorded

variable {σ α : Type} [Renderer σ]

instance : Renderer (Recorded σ) where
  page recorded := Renderer.page recorded.guest
  setPage page recorded :=
    { recorded with guest := Renderer.setPage page recorded.guest }
  beginCall recorded :=
    { recorded with guest := Renderer.beginCall recorded.guest }
  enter arguments := fun recorded =>
    let (outcome, guest) := (Renderer.enter arguments).run recorded.guest
    (outcome, ⟨guest, recorded.calls ++ [.enter arguments]⟩)
  takeCause entry reason := fun recorded =>
    let (cause, guest) := (Renderer.takeCause entry reason).run recorded.guest
    (cause, ⟨guest, recorded.calls⟩)

@[simp]
theorem beginCall_mk (guest : σ) (calls : List GuestCall) :
    Renderer.beginCall (⟨guest, calls⟩ : Recorded σ) =
      ⟨Renderer.beginCall guest, calls⟩ :=
  rfl

@[simp]
theorem run_enter
    (arguments : List UInt32) (guest : σ) (calls : List GuestCall) :
    (Renderer.enter arguments : StateM (Recorded σ) Outcome).run
        ⟨guest, calls⟩ =
      (((Renderer.enter arguments).run guest).1,
        ⟨((Renderer.enter arguments).run guest).2,
          calls ++ [.enter arguments]⟩) :=
  rfl

@[simp]
theorem run_takeCause
    (entry : String) (reason : Trap) (guest : σ)
    (calls : List GuestCall) :
    (Renderer.takeCause entry reason : StateM (Recorded σ) Fault).run
        ⟨guest, calls⟩ =
      (((Renderer.takeCause entry reason).run guest).1,
        ⟨((Renderer.takeCause entry reason).run guest).2, calls⟩) :=
  rfl

end Recorded

namespace Instance

variable {μ ς : Type}

/-! ## Calls of an instance -/

/-- The instance, gone on to another store and another host. -/
def resume (running : Instance μ ς) (store : ς) (host : Host) :
    Instance μ ς :=
  { running with store, host }

@[simp]
theorem budget_resume (running : Instance μ ς) (store : ς)
    (host : Host) : (running.resume store host).budget = running.budget :=
  rfl

@[simp]
theorem host_resume (running : Instance μ ς) (store : ς)
    (host : Host) : (running.resume store host).host = host :=
  rfl

theorem run_get (running : Instance μ ς) :
    (get : Guest.Call (Instance μ ς) (Instance μ ς)).run.run running =
      (.ok running, running) :=
  rfl

theorem run_liftM {step : StateM (Instance μ ς) Outcome}
    {running after : Instance μ ς} {outcome : Outcome}
    (called : step.run running = (outcome, after)) :
    (liftM step : Guest.Call (Instance μ ς) Outcome).run.run running =
      (.ok outcome, after) := by
  change (Except.ok (step.run running).1, (step.run running).2) = _
  rw [called]

variable [Runtime μ ς]

theorem run_invoke {running : Instance μ ς} {function : Nat}
    {arguments : List UInt32} {outcome : Outcome} {store : ς} {host : Host}
    (called : Runtime.invoke running.module (hostCalls running.bindings)
      running.budget function (arguments.map .i32) running.store
      running.host = (outcome, store, host)) :
    (invoke function arguments).run running =
      (outcome, running.resume store host) := by
  unfold invoke
  simp only [StateT.run, called]
  rfl

end Instance

namespace Client

variable {σ α : Type}

/-! ## Steps of a render -/

@[simp]
theorem perform_attempt
    (step : Exchange σ α) (ledger : Ledger) (guest : σ) :
    (attempt step).perform ledger guest =
      (.ok (step.perform ledger guest).1, (step.perform ledger guest).2) := by
  unfold attempt
  simp only [Exchange.perform_tryCatch, Exchange.perform_map,
    Exchange.perform_pure]
  rcases step.perform ledger guest with ⟨fault | value, after, left⟩
  · rfl
  · rfl

@[simp]
theorem perform_ofResult
    (result : Except Fault α) (ledger : Ledger) (guest : σ) :
    (ofResult result : Exchange σ α).perform ledger guest =
      (result, ledger, guest) := by
  cases result with
  | error fault =>
      rfl
  | ok value =>
      rfl

section Rendering

variable [Renderer σ]

@[simp]
theorem perform_beginCall (ledger : Ledger) (guest : σ) :
    (beginCall : Exchange σ Unit).perform ledger guest =
      (.ok (), ledger, Renderer.beginCall guest) :=
  rfl

@[simp]
theorem perform_callEntry
    (arguments : List UInt32) (ledger : Ledger) (guest : σ) :
    (callEntry arguments).perform ledger guest =
      (.ok ((Renderer.enter arguments).run guest).1, ledger,
        ((Renderer.enter arguments).run guest).2) :=
  rfl

@[simp]
theorem perform_failEntry
    (entry : String) (reason : Trap) (ledger : Ledger) (guest : σ) :
    (failEntry entry reason : Exchange σ α).perform ledger guest =
      (.error ((Renderer.takeCause entry reason).run guest).1, ledger,
        ((Renderer.takeCause entry reason).run guest).2) :=
  rfl

/-! ## Requests -/

/-- The answer to a request, and the client after it. Only a request for
markup is answered with a text. -/
def serve (client : Client σ) :
    Request → Except Fault (Option String) × Client σ
  | .markup text =>
    let (result, client) := client.renderMarkup text
    (result.map some, client)
  | .into text id =>
    let (result, client) := client.renderInto text id
    (result.map fun () => none, client)

/-- The client after requests that were made one after another. -/
def serveAll (client : Client σ) (requests : List Request) : Client σ :=
  requests.foldl (fun client request => (client.serve request).2) client

/-- What a client becomes by requests, and by other pages that it is put on. -/
inductive Becomes (client : Client σ) : Client σ → Prop where
  | refl : Becomes client client
  | serve {later : Client σ} (becomes : Becomes client later)
      (request : Request) : Becomes client (later.serve request).2
  | setPage {later : Client σ} (becomes : Becomes client later)
      (page : Page) : Becomes client (later.setPage page)

def record (client : Client σ) : Client (Recorded σ) :=
  { client with running := ⟨client.running, []⟩ }

def inside (client : Client (Recorded σ)) : Client σ :=
  { client with running := client.running.guest }

/-- The calls into the guest that a request makes. -/
def calls (client : Client σ) (request : Request) : List GuestCall :=
  (client.record.serve request).2.running.calls

end Rendering

end Client

namespace Recorded.Mirrors

open Client

variable {σ α : Type}

theorem ofResult (result : Except Fault α) :
    Mirrors (Client.ofResult result : Exchange (Recorded σ) α)
      (Client.ofResult result) := by
  intro ledger guest calls
  refine ⟨[], ?_⟩
  rw [perform_ofResult, perform_ofResult, List.append_nil]

theorem attempt
    {step : Exchange (Recorded σ) α} {plain : Exchange σ α}
    (mirrors : Mirrors step plain) :
    Mirrors (Client.attempt step) (Client.attempt plain) := by
  intro ledger guest calls
  obtain ⟨made, same⟩ := mirrors ledger guest calls
  exact ⟨made, by rw [perform_attempt, perform_attempt, same]⟩

variable [Renderer σ]

theorem beginCall :
    Mirrors (Client.beginCall : Exchange (Recorded σ) Unit)
      Client.beginCall := by
  intro ledger guest calls
  refine ⟨[], ?_⟩
  rw [perform_beginCall, perform_beginCall, List.append_nil]
  rfl

theorem callEntry (arguments : List UInt32) :
    Mirrors (Client.callEntry arguments : Exchange (Recorded σ) Outcome)
      (Client.callEntry arguments) := by
  intro ledger guest calls
  exact ⟨[.enter arguments], rfl⟩

theorem failEntry (entry : String) (reason : Trap) :
    Mirrors (Client.failEntry entry reason : Exchange (Recorded σ) α)
      (Client.failEntry entry reason) := by
  intro ledger guest calls
  refine ⟨[], ?_⟩
  rw [perform_failEntry, perform_failEntry, List.append_nil]
  rfl

theorem renderText (entry text : String) :
    Mirrors (Client.renderText entry text : Exchange (Recorded σ) String)
      (Client.renderText entry text) := by
  unfold Client.renderText
  refine .bind .beginCall fun _ => .bind (.writeString _ _) fun input => ?_
  refine .bind (.callEntry _) fun outcome => ?_
  refine .bind (.attempt (.release input)) fun released => ?_
  cases outcome with
  | trap reason =>
      exact .failEntry entry reason
  | done results =>
      refine .ite (.bind (.ofResult released) fun _ =>
        .bind (.throw _) fun _ => ?_) ?_
      all_goals
        refine .bind (.attempt (.takeCString _)) fun markup => ?_
        exact .bind (.ofResult released) fun _ => .ofResult markup

theorem releaseAll (strings : List GuestString) :
    Mirrors (Client.releaseAll strings : Exchange (Recorded σ) Unit)
      (Client.releaseAll strings) := by
  induction strings with
  | nil =>
      exact .pure ()
  | cons string rest inductionHypothesis =>
      refine .bind (.attempt (.release string)) fun first => ?_
      refine .bind (.attempt inductionHypothesis) fun others => ?_
      exact .bind (.ofResult first) fun _ => .ofResult others

theorem renderElement (entry text id : String) :
    Mirrors (Client.renderElement entry text id : Exchange (Recorded σ) Unit)
      (Client.renderElement entry text id) := by
  unfold Client.renderElement
  refine .bind .beginCall fun _ => .bind (.writeString _ _) fun contents => ?_
  refine .bind (.tryCatch (.writeString _ _) fun fault =>
    .bind (.release contents) fun _ => .throw fault) fun target => ?_
  refine .bind (.callEntry _) fun outcome => ?_
  refine .bind (.attempt (.releaseAll _)) fun released => ?_
  cases outcome with
  | trap reason =>
      exact .failEntry entry reason
  | done results =>
      exact .ofResult released

end Recorded.Mirrors

namespace Client

variable {σ α : Type}

theorem perform_mirrors
    {render : Exchange (Recorded σ) α} {plain : Exchange σ α}
    (mirrors : Recorded.Mirrors render plain)
    (client : Client (Recorded σ)) :
    (client.perform render).1 = (client.inside.perform plain).1 ∧
      (client.perform render).2.inside = (client.inside.perform plain).2 := by
  obtain ⟨made, same⟩ :=
    mirrors client.ledger client.running.guest client.running.calls
  unfold Client.perform
  constructor
  · exact congrArg Prod.fst same
  · change Client.mk client.contract _ _ = Client.mk client.contract _ _
    rw [show render.perform client.ledger client.running = _ from same]
    rfl

variable [Renderer σ]

theorem renderMarkup_inside
    (client : Client (Recorded σ)) (text : String) :
    (client.renderMarkup text).1 = (client.inside.renderMarkup text).1 ∧
      (client.renderMarkup text).2.inside =
        (client.inside.renderMarkup text).2 := by
  unfold renderMarkup
  have sameContract : client.inside.contract = client.contract := rfl
  rw [sameContract]
  cases client.contract.abi with
  | bindgen =>
      exact ⟨rfl, rfl⟩
  | cString =>
      exact perform_mirrors
        (.renderText client.contract.entry text) client

theorem renderInto_inside
    (client : Client (Recorded σ)) (text id : String) :
    (client.renderInto text id).1 = (client.inside.renderInto text id).1 ∧
      (client.renderInto text id).2.inside =
        (client.inside.renderInto text id).2 := by
  unfold renderInto
  have samePage : client.inside.page = client.page := rfl
  have sameContract : client.inside.contract = client.contract := rfl
  rw [samePage, sameContract]
  by_cases known : client.page.contains id = true
  · simp only [known, Bool.not_true, Bool.false_eq_true, ↓reduceIte]
    cases client.contract.abi with
    | bindgen =>
        exact perform_mirrors
          (.renderElement client.contract.entry text id) client
    | cString =>
        obtain ⟨sameResult, sameClient⟩ := renderMarkup_inside client text
        rcases watched : client.renderMarkup text with ⟨fault | markup, after⟩
        all_goals
          rcases plain : client.inside.renderMarkup text with
            ⟨plainResult, plainAfter⟩
          simp only [watched, plain] at sameResult sameClient
          subst sameResult sameClient
        · exact ⟨rfl, rfl⟩
        · have samePageAfter : after.inside.page = after.page := rfl
          simp only [samePageAfter]
          cases after.page.setInnerHtml id markup with
          | ok page =>
              exact ⟨rfl, rfl⟩
          | error fault =>
              exact ⟨rfl, rfl⟩
  · simp only [known, Bool.not_false, ↓reduceIte, and_self]

/-- Recording changes neither the answer nor the client. -/
theorem serve_record (client : Client σ) (request : Request) :
    (client.record.serve request).1 = (client.serve request).1 ∧
      (client.record.serve request).2.inside =
        (client.serve request).2 := by
  cases request with
  | markup text =>
      obtain ⟨sameResult, sameClient⟩ :=
        renderMarkup_inside client.record text
      exact ⟨congrArg (Except.map some) sameResult, sameClient⟩
  | into text id =>
      obtain ⟨sameResult, sameClient⟩ :=
        renderInto_inside client.record text id
      refine ⟨?_, sameClient⟩
      exact congrArg
        (Except.map fun () => (none : Option String)) sameResult

end Client

end KeymapViewer
