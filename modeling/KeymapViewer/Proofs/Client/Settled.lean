import KeymapViewer.Proofs.Client.Custody
import KeymapViewer.Proofs.Client.Startup
import KeymapViewer.Stub

/-!
Clients between requests. A request to a client that holds no block of its
module's memory leaves it holding none, so no run of requests leaves any.
-/

namespace KeymapViewer

open Text Wasm Exchange GuestCall

namespace Client

variable {σ : Type} [Renderer σ]

/-! ## One request -/

/-- What is left of a request to a client that held no block: it holds none
again, and the calls it made have given back what they got. -/
structure Settled (sizes : List Nat) (client : Client (Recorded σ)) :
    Prop where
  clean : client.ledger.live = []
  givesBack : GivesBack [] client.running.calls
  requested : client.running.calls.filterMap request? <+: sizes

omit [Renderer σ] in
/-- What carrying out a step on a recorded client comes to. -/
theorem perform_record {α : Type} {render : Exchange (Recorded σ) α}
    {client : Client σ} {result : Except Fault α} {after : Ledger}
    {left : Recorded σ}
    (performed : render.perform client.ledger ⟨client.running, []⟩ =
      (result, after, left)) :
    client.record.perform render =
      (result, ⟨client.contract, after, left⟩) := by
  unfold Client.perform
  rw [show Exchange.perform _ client.record.ledger client.record.running = _
    from performed]
  rfl

theorem renderMarkup_outcome
    {client : Client σ} (clean : client.ledger.live = []) (text : String) :
    (client.record.renderMarkup text).2.ledger.live = [] ∧
      OneBlock (blockSize text)
        (client.record.renderMarkup text).2.running.calls := by
  unfold renderMarkup
  cases client.record.contract.abi with
  | bindgen =>
      exact ⟨clean, .idle⟩
  | cString =>
      obtain ⟨result, after, left, calls, performed, live, shape⟩ :=
        renderText_outcome client.record.contract.entry text clean
          client.running
      simp only [perform_record performed]
      exact ⟨live, shape⟩

/-- Which shape the calls of a render into an element take depends on the
contract. -/
theorem renderInto_outcome
    {client : Client σ} (clean : client.ledger.live = [])
    (text id : String) :
    (client.record.renderInto text id).2.ledger.live = [] ∧
      (OneBlock (blockSize text)
          (client.record.renderInto text id).2.running.calls ∨
        TwoBlocks (blockSize text) (blockSize id)
          (client.record.renderInto text id).2.running.calls) := by
  unfold renderInto
  by_cases known : client.record.page.contains id = true
  · simp only [known, Bool.not_true, Bool.false_eq_true, ↓reduceIte]
    cases client.record.contract.abi with
    | bindgen =>
        obtain ⟨result, after, left, calls, performed, live, shape⟩ :=
          renderElement_outcome client.record.contract.entry text id clean
            client.running
        simp only [perform_record performed]
        exact ⟨live, .inr shape⟩
    | cString =>
        have outcome := renderMarkup_outcome clean text
        rcases rendered : client.record.renderMarkup text with
          ⟨fault | markup, after⟩
        all_goals rw [rendered] at outcome
        · exact ⟨outcome.1, .inl outcome.2⟩
        · simp only
          cases after.page.setInnerHtml id markup with
          | ok page =>
              exact ⟨outcome.1, .inl outcome.2⟩
          | error fault =>
              exact ⟨outcome.1, .inl outcome.2⟩
  · simp only [known, Bool.not_false, ↓reduceIte]
    exact ⟨clean, .inl .idle⟩

theorem serve_settles
    {client : Client σ} (clean : client.ledger.live = [])
    {request : Request} (short : request.Short) :
    Settled request.sizes (client.record.serve request).2 := by
  cases request with
  | markup text =>
      obtain ⟨live, shape⟩ := renderMarkup_outcome clean text
      have requested := shape.requested
      rw [toNat_blockSize
        (short (byteLength text + 1) (by simp [Request.sizes]))] at requested
      exact ⟨live, shape.givesBack, requested⟩
  | into text id =>
      obtain ⟨live, shape⟩ := renderInto_outcome clean text id
      have sizeText := toNat_blockSize
        (short (byteLength text + 1) (by simp [Request.sizes]))
      have sizeId := toNat_blockSize
        (short (byteLength id + 1) (by simp [Request.sizes]))
      rcases shape with shape | shape
      · have requested := shape.requested
        rw [sizeText] at requested
        exact ⟨live, shape.givesBack,
          requested.trans (List.prefix_append _ [byteLength id + 1])⟩
      · have requested := shape.requested
        rw [sizeText, sizeId] at requested
        exact ⟨live, shape.givesBack, requested⟩

/-- A request to a client that holds no block leaves it holding none. -/
theorem serve_clean
    {client : Client σ} (clean : client.ledger.live = [])
    (request : Request) :
    (client.serve request).2.ledger.live = [] := by
  rw [← (serve_record client request).2]
  cases request with
  | markup text =>
      exact (renderMarkup_outcome clean text).1
  | into text id =>
      exact (renderInto_outcome clean text id).1

/-! ## Runs of requests -/

theorem serveAll_clean
    (requests : List Request) {client : Client σ}
    (clean : client.ledger.live = []) :
    (client.serveAll requests).ledger.live = [] := by
  induction requests generalizing client with
  | nil =>
      exact clean
  | cons request rest inductionHypothesis =>
      exact inductionHypothesis (serve_clean clean request)

/-- A client starts with an empty ledger, on every runtime. -/
theorem ledger_of_instantiateWith
    {μ ς : Type} [Runtime μ ς] {budget : Nat} {binary : Bytes}
    {entryName : Option String} {page : Page}
    {client : Client (Instance μ ς)}
    (started :
      Client.instantiateWith budget binary entryName page μ = .ok client) :
    client.ledger = .empty := by
  obtain ⟨module, contract, running, -, rfl⟩ :=
    exists_of_instantiateWith started
  rfl

/-- A client that starts without blocks holds none between its requests. -/
theorem Becomes.clean {client later : Client σ}
    (becomes : client.Becomes later) (clean : client.ledger.live = []) :
    later.ledger.live = [] := by
  induction becomes with
  | refl =>
      exact clean
  | serve becomes request inductionHypothesis =>
      exact serve_clean inductionHypothesis request
  | setPage becomes page inductionHypothesis =>
      exact inductionHypothesis

/-- Whatever the guest does, after every request to a client that has started
with an empty ledger the host holds no block of its memory. The calls of a
request are those of the same request to the client whose guest is recorded:
they ask for blocks of one byte more than the texts, and each block that the
host does not hold already is freed once, with the size it was asked for. -/
theorem serveAll_gives_back_every_block
    {client : Client σ} (fresh : client.ledger = .empty)
    (requests : List Request)
    (short : ∀ request ∈ requests, request.Short) :
    (client.serveAll requests).outstanding = 0 ∧
      ∀ earlier request later, requests = earlier ++ request :: later →
        let before := client.serveAll earlier
        let watched := before.record.serve request
        watched.1 = (before.serve request).1 ∧
          watched.2.inside = (before.serve request).2 ∧
          (before.serve request).2.outstanding = 0 ∧
          GivesBack before.ledger.pointers (before.calls request) ∧
          (before.calls request).filterMap request? <+: request.sizes := by
  have clean : client.ledger.live = [] := congrArg Ledger.live fresh
  constructor
  · exact List.length_eq_zero_iff.mpr (serveAll_clean requests clean)
  · rintro earlier request later rfl
    have shortRequest : request.Short := short request (by simp)
    have cleanBefore := serveAll_clean earlier clean
    have settled := serve_settles cleanBefore shortRequest
    obtain ⟨sameAnswer, sameClient⟩ :=
      serve_record (client.serveAll earlier) request
    have noPointer : (client.serveAll earlier).ledger.pointers = [] := by
      rw [Ledger.pointers, cleanBefore, List.map_nil]
    refine ⟨sameAnswer, sameClient, ?_, ?_, settled.requested⟩
    · exact List.length_eq_zero_iff.mpr (serve_clean cleanBefore request)
    · rw [noPointer]
      exact settled.givesBack

/-- The module that copies its input starts, and answers a request for each
kind of render. -/
theorem echo_gives_back_every_block :
    ∃ client,
      Client.instantiateWith 100 (Stub.Kind.binary .cString) none
          (Page.parse "<p id=a></p>") = .ok client ∧
        (∀ request ∈ [Request.into "base" "a", .markup "layer"],
          request.Short) ∧
        (client.serveAll [.into "base" "a", .markup "layer"]).outstanding =
          0 := by
  have accepted :
      (Client.instantiateWith 100 (Stub.Kind.binary .cString) none
        (Page.parse "<p id=a></p>")).toBool = true := by
    decide +kernel
  have short :
      ∀ request ∈ [Request.into "base" "a", .markup "layer"],
        request.Short := by
    decide +kernel
  rcases started :
      Client.instantiateWith 100 (Stub.Kind.binary .cString) none
        (Page.parse "<p id=a></p>") with fault | client
  · rw [started] at accepted
    cases accepted
  · exact ⟨client, rfl, short,
      (serveAll_gives_back_every_block (ledger_of_instantiateWith started) _
        short).1⟩

end Client

end KeymapViewer
