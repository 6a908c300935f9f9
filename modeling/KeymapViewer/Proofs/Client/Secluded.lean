import KeymapViewer.Proofs.Client.Request
import KeymapViewer.Proofs.Client.Startup
import KeymapViewer.Proofs.Page.Edit

/-!
Modules that import nothing. Such a module cannot reach the host, so nothing
that is asked of it changes the page, and nothing that it answers depends on
the page.
-/

namespace KeymapViewer

open Text Wasm

/-! ## Steps on two guests -/

variable {σ α β : Type} {related : σ → σ → Prop}

/-- On related guests a call comes to the same, and leaves related guests. -/
def Guest.Alike (related : σ → σ → Prop) (step : Guest.Call σ α) : Prop :=
  ∀ guest other, related guest other →
    (step.run.run guest).1 = (step.run.run other).1 ∧
      related (step.run.run guest).2 (step.run.run other).2

namespace Guest.Alike

theorem blind {step : Guest.Call σ α} {result : Except Fault α}
    (same : ∀ guest, step.run.run guest = (result, guest)) :
    Alike related step := by
  intro guest other holds
  rw [same, same]
  exact ⟨rfl, holds⟩

theorem bind {first : Guest.Call σ α} {next : α → Guest.Call σ β}
    (alikeFirst : Alike related first)
    (alikeNext : ∀ value, Alike related (next value)) :
    Alike related (first >>= next) := by
  intro guest other holds
  have between := alikeFirst guest other holds
  rw [Exchange.run_bind, Exchange.run_bind]
  revert between
  rcases first.run.run guest with ⟨result, after⟩
  rcases first.run.run other with ⟨otherResult, otherAfter⟩
  rintro ⟨rfl, holdsAfter⟩
  cases result with
  | error fault =>
      exact ⟨rfl, holdsAfter⟩
  | ok value =>
      exact alikeNext value after otherAfter holdsAfter

end Guest.Alike

/-- On related guests a step comes to the same result and ledger, and leaves
related guests. -/
def Exchange.Alike (related : σ → σ → Prop) (step : Exchange σ α) : Prop :=
  ∀ ledger guest other, related guest other →
    ∃ result after left otherLeft,
      step.perform ledger guest = (result, after, left) ∧
      step.perform ledger other = (result, after, otherLeft) ∧
      related left otherLeft

namespace Exchange.Alike

/-- Steps that do not look at the guest. -/
theorem blind {step : Exchange σ α}
    (same : ∀ ledger, ∃ result after, ∀ guest,
      step.perform ledger guest = (result, after, guest)) :
    Alike related step := by
  intro ledger guest other holds
  obtain ⟨result, after, performed⟩ := same ledger
  exact ⟨result, after, guest, other, performed guest, performed other, holds⟩

theorem throw (fault : Fault) :
    Alike related (MonadExcept.throw fault : Exchange σ α) :=
  .blind fun _ => ⟨_, _, fun _ => rfl⟩

theorem pure (value : α) : Alike related (Pure.pure value : Exchange σ α) :=
  .blind fun _ => ⟨_, _, fun _ => rfl⟩

theorem ledger : Alike related (Exchange.ledger : Exchange σ Ledger) :=
  .blind fun _ => ⟨_, _, fun _ => rfl⟩

theorem update (change : Ledger → Ledger) :
    Alike related (Exchange.update change : Exchange σ Unit) :=
  .blind fun _ => ⟨_, _, fun _ => rfl⟩

theorem ofResult (result : Except Fault α) :
    Alike related (Client.ofResult result : Exchange σ α) :=
  .blind fun _ => ⟨_, _, fun _ => Client.perform_ofResult ..⟩

theorem bind {first : Exchange σ α} {next : α → Exchange σ β}
    (alikeFirst : Alike related first)
    (alikeNext : ∀ value, Alike related (next value)) :
    Alike related (first >>= next) := by
  intro ledger guest other holds
  obtain ⟨result, after, left, otherLeft, performed, otherPerformed,
    holdsLeft⟩ := alikeFirst ledger guest other holds
  rw [perform_bind, perform_bind, performed, otherPerformed]
  cases result with
  | error fault =>
      exact ⟨_, _, _, _, rfl, rfl, holdsLeft⟩
  | ok value =>
      exact alikeNext value after left otherLeft holdsLeft

theorem tryCatch {step : Exchange σ α} {handle : Fault → Exchange σ α}
    (alike : Alike related step)
    (alikeHandle : ∀ fault, Alike related (handle fault)) :
    Alike related (MonadExcept.tryCatch step handle) := by
  intro ledger guest other holds
  obtain ⟨result, after, left, otherLeft, performed, otherPerformed,
    holdsLeft⟩ := alike ledger guest other holds
  rw [perform_tryCatch, perform_tryCatch, performed, otherPerformed]
  cases result with
  | error fault =>
      exact alikeHandle fault after left otherLeft holdsLeft
  | ok value =>
      exact ⟨_, _, _, _, rfl, rfl, holdsLeft⟩

theorem ite {condition : Prop} [Decidable condition]
    {yes no : Exchange σ α} (alikeYes : Alike related yes)
    (alikeNo : Alike related no) :
    Alike related (if condition then yes else no) := by
  split
  · exact alikeYes
  · exact alikeNo

theorem call {step : Guest.Call σ α} (alike : Guest.Alike related step) :
    Alike related (Exchange.call step) := by
  intro ledger guest other holds
  obtain ⟨same, after⟩ := alike guest other holds
  rw [perform_call, perform_call, same]
  exact ⟨_, _, _, _, rfl, rfl, after⟩

theorem attempt {step : Exchange σ α} (alike : Alike related step) :
    Alike related (Client.attempt step) := by
  intro ledger guest other holds
  obtain ⟨result, after, left, otherLeft, performed, otherPerformed,
    holdsLeft⟩ := alike ledger guest other holds
  rw [Client.perform_attempt, Client.perform_attempt, performed,
    otherPerformed]
  exact ⟨_, _, _, _, rfl, rfl, holdsLeft⟩

end Exchange.Alike

/-! ## Renders -/

/-- Related guests look alike: whatever is called in both comes to the
same. -/
structure Renderer.Alike [Renderer σ] (related : σ → σ → Prop) : Prop where
  memory : ∀ guest other, related guest other →
    Guest.memory guest = Guest.memory other
  store : ∀ pointer bytes,
    Guest.Alike related (Guest.store pointer bytes)
  alloc : ∀ size, Guest.Alike related (Guest.alloc size)
  dealloc : ∀ pointer size, Guest.Alike related (Guest.dealloc pointer size)
  deallocText : ∀ pointer, Guest.Alike related (Guest.deallocText pointer)
  beginCall : ∀ guest other, related guest other →
    related (Renderer.beginCall guest) (Renderer.beginCall other)
  enter : ∀ arguments,
    Guest.Alike related (liftM (Renderer.enter arguments : StateM σ Outcome))
  takeCause : ∀ entry reason,
    Guest.Alike related
      (liftM (Renderer.takeCause entry reason : StateM σ Fault))

namespace Renderer.Alike

open Exchange

variable [Renderer σ]

theorem inspect (alike : Renderer.Alike related)
    (look : Memory → Except SpanFault α) :
    Guest.Alike related (Guest.inspect look) := by
  intro guest other holds
  rw [run_inspect, run_inspect, alike.memory guest other holds]
  exact ⟨rfl, holds⟩

theorem writeText (alike : Renderer.Alike related) (pointer : UInt32)
    (text : String) (terminator : Terminator) :
    Guest.Alike related (Guest.writeText pointer text terminator) := by
  unfold Guest.writeText
  by_cases nothing : (terminator.encode text).length.toUInt32 = 0
  · simp only [nothing, ↓reduceIte]
    exact .blind fun _ => rfl
  · simp only [nothing, ↓reduceIte]
    exact .bind (alike.inspect _) fun _ => .bind (alike.store _ _) fun _ =>
      .blind fun _ => rfl

theorem writeString (alike : Renderer.Alike related) (text : String)
    (terminator : Terminator) :
    Exchange.Alike related (Exchange.writeString text terminator) := by
  unfold Exchange.writeString
  refine .ite (.bind (.throw _) fun _ => ?_) ?_
  all_goals
    refine .bind (.call (alike.alloc _)) fun pointer =>
      .bind .ledger fun ledger => ?_
    refine .ite (.bind (.throw _) fun _ => ?_) ?_
  all_goals
    refine .bind (.tryCatch ?_ fun fault => ?_) fun _ => ?_
    · exact .bind (.call (alike.writeText _ _ _)) fun _ => .pure _
    · exact .bind (.call (alike.dealloc _ _)) fun _ => .throw _
    · exact .bind (.update _) fun _ => .pure _

theorem release (alike : Renderer.Alike related) (string : GuestString) :
    Exchange.Alike related (Exchange.release string) := by
  unfold Exchange.release
  refine .bind .ledger fun ledger => .bind (.update _) fun _ => ?_
  have freed : Exchange.Alike related
      (do
        Exchange.call (Guest.dealloc string.pointer string.capacity)
        Exchange.update fun ledger =>
          { ledger with released := ledger.released + 1 }) :=
    .bind (.call (alike.dealloc _ _)) fun _ => .update _
  cases ledger.capacity? string.pointer with
  | none =>
      exact .bind (.throw _) fun _ => freed
  | some capacity =>
      exact .ite (.bind (.throw _) fun _ => freed) freed

theorem takeCString (alike : Renderer.Alike related) (pointer : UInt32) :
    Exchange.Alike related (Exchange.takeCString pointer) := by
  unfold Exchange.takeCString
  refine .bind .ledger fun ledger => ?_
  refine .ite (.bind (.throw _) fun _ => ?_) ?_
  all_goals
    refine .bind (.call (alike.inspect _)) fun text => .bind (.tryCatch
      (.call (alike.deallocText _)) fun fault => .throw _) fun _ => ?_
    exact .bind (.update _) fun _ => .pure _

theorem renderText (alike : Renderer.Alike related) (entry text : String) :
    Exchange.Alike related (Client.renderText entry text) := by
  have begins : Exchange.Alike related (Client.beginCall : Exchange σ Unit) :=
    .call fun guest other holds => ⟨rfl, alike.beginCall guest other holds⟩
  unfold Client.renderText
  refine .bind begins fun _ => .bind (alike.writeString _ _) fun input => ?_
  refine .bind (.call (alike.enter _)) fun outcome => ?_
  refine .bind (.attempt (alike.release input)) fun released => ?_
  cases outcome with
  | trap reason =>
      exact .bind (.call (alike.takeCause entry reason)) fun _ => .throw _
  | done results =>
      refine .ite (.bind (.ofResult released) fun _ =>
        .bind (.throw _) fun _ => ?_) ?_
      all_goals
        refine .bind (.attempt (alike.takeCString _)) fun markup => ?_
        exact .bind (.ofResult released) fun _ => .ofResult markup

end Renderer.Alike

/-! ## Modules without imports -/

namespace Instance

variable {μ ς : Type} [Runtime μ ς]

/-- Two instances without callbacks that are the same but for their pages. -/
structure OnPages (page other : Page) (running moved : Instance μ ς) :
    Prop where
  bindings : running.bindings = []
  page : running.host.page = page
  moved : moved = Renderer.setPage other running

variable {page other : Page}

theorem onPages_setPage {running : Instance μ ς}
    (bindings : running.bindings = []) (other : Page) :
    OnPages running.host.page other running
      (Renderer.setPage other running) :=
  ⟨bindings, rfl, rfl⟩

/-- Steps that begin with a look at the instance go on with the same on both
pages. -/
theorem alike_get_bind {α : Type}
    {next : Instance μ ς → Guest.Call (Instance μ ς) α}
    (alike : ∀ running, Guest.Alike (OnPages page other) (next running))
    (same : ∀ running, next (Renderer.setPage other running) = next running) :
    Guest.Alike (OnPages page other) (get >>= next) := by
  intro running moved pages
  have looked (guest : Instance μ ς) :
      (get >>= next : Guest.Call (Instance μ ς) α).run.run guest =
        (next guest).run.run guest := rfl
  rw [looked, looked, pages.moved, same, ← pages.moved]
  exact alike running running moved pages

variable [LawfulRuntime μ]

/-- A module that imports nothing starts on its page without callbacks. -/
theorem secluded_of_start {module : μ} {contract : Contract}
    {budget : Nat} {running : Instance μ ς}
    (started : start module contract page budget = .ok running)
    (imports : Runtime.imports running.module = []) :
    running.bindings = [] ∧ running.host.page = page := by
  obtain ⟨bindings, store, host, bound, -, rfl, rfl, -⟩ :=
    exists_of_start started
  obtain ⟨begun, starting, same⟩ := host_of_start started
  constructor
  · rw [bindImports, imports] at bound
    exact (Except.ok.inj bound).symm
  · rw [same]
    exact starting.page

/-- A call leaves the host alone that it cannot reach. -/
theorem alike_invoke (function : Nat) (arguments : List UInt32) :
    Guest.Alike (OnPages page other : Instance μ ς → Instance μ ς → Prop)
      (liftM (invoke function arguments : StateM (Instance μ ς) Outcome)) := by
  rintro running _ ⟨unbound, same, rfl⟩
  let moved : Instance μ ς := Renderer.setPage other running
  have alike : AnswerAlike (hostCalls []) (hostCalls [])
      (fun host otherHost => host = running.host ∧ otherHost = moved.host)
      (fun host otherHost => host = running.host ∧ otherHost = moved.host) :=
    fun _ _ _ _ _ related => .gaveUp related
  obtain ⟨outcome, after, left, leftMoved, ran, ranMoved, leftAlike⟩ :=
    invoke_alike running.module alike ⟨rfl, rfl⟩ running.budget function
      (arguments.map .i32) running.store
  obtain ⟨rfl, rfl⟩ : left = running.host ∧ leftMoved = moved.host := by
    rcases leftAlike with both | ⟨-, both⟩
    · exact both
    · exact both
  have called : (invoke function arguments).run running =
      (outcome, running.resume after running.host) :=
    run_invoke (by rw [unbound, ran])
  have calledMoved : (invoke function arguments).run moved =
      (outcome, moved.resume after moved.host) := by
    refine run_invoke ?_
    rw [show moved.bindings = [] from unbound]
    exact ranMoved
  rw [run_liftM called, run_liftM calledMoved]
  exact ⟨rfl, unbound, same, rfl⟩

theorem alike_callAbout (name : String) (function : Nat) (pointer : UInt32)
    (arguments : List UInt32) :
    Guest.Alike (OnPages page other)
      (callAbout name function pointer arguments :
        Guest.Call (Instance μ ς) Unit) := by
  refine .bind (alike_invoke function arguments) fun outcome => ?_
  cases outcome with
  | done results =>
      exact .blind fun _ => rfl
  | trap reason =>
      exact .blind fun _ => rfl

theorem page_forgetCause (host : Host) :
    host.forgetCause.page = host.page := by
  unfold Host.forgetCause
  split
  · rfl
  · rfl

theorem forgetCause_onPage (host : Host) (page : Page) :
    Host.forgetCause { host with page } = { host.forgetCause with page } := by
  obtain ⟨own, handles, ready, thrown, failure⟩ := host
  cases failure with
  | none =>
      rfl
  | some fault =>
      rfl

theorem renderer_alike_onPages :
    Renderer.Alike
      (OnPages page other : Instance μ ς → Instance μ ς → Prop) where
  memory := by
    rintro running _ ⟨-, -, rfl⟩
    rfl
  store pointer bytes := by
    rintro running _ ⟨unbound, same, rfl⟩
    exact ⟨rfl, unbound, same, rfl⟩
  alloc size := by
    refine alike_get_bind (fun running => ?_) fun _ => rfl
    refine .bind (.bind (alike_invoke _ _) fun outcome => ?_) fun results => ?_
    · cases outcome with
      | done results =>
          exact .blind fun _ => rfl
      | trap reason =>
          exact .blind fun _ => rfl
    · split
      · exact .blind fun _ => rfl
      · exact .blind fun _ => rfl
  dealloc pointer size :=
    alike_get_bind (fun _ => alike_callAbout _ _ _ _) fun _ => rfl
  deallocText pointer := by
    refine alike_get_bind (fun running => ?_) fun _ => rfl
    cases running.allocator.deallocText with
    | none =>
        exact .blind fun _ => rfl
    | some function =>
        exact alike_callAbout _ _ _ _
  beginCall := by
    rintro running _ ⟨unbound, same, rfl⟩
    exact ⟨unbound, same, rfl⟩
  enter arguments := by
    intro running moved pages
    have entered := alike_invoke running.entry arguments running moved pages
    obtain ⟨unbound, same, rfl⟩ := pages
    exact entered
  takeCause entry reason := by
    rintro running _ ⟨unbound, same, rfl⟩
    refine ⟨rfl, unbound, (page_forgetCause running.host).trans same, ?_⟩
    exact congrArg (fun host => { running with host })
      (forgetCause_onPage running.host other)

end Instance

namespace Client

variable {μ ς : Type}

/-- A client on a module that returns texts and imports nothing. -/
structure IsSecluded (client : Client (Instance μ ς)) : Prop where
  abi : client.contract.abi = .cString
  bindings : client.running.bindings = []

variable [Runtime μ ς]

theorem isSecluded_setPage {client : Client (Instance μ ς)}
    (secluded : client.IsSecluded) (page : Page) :
    (client.setPage page).IsSecluded :=
  ⟨secluded.abi, secluded.bindings⟩

/-- What a render fails with is all that comes of it. -/
theorem renderInto_of_error {client after : Client (Instance μ ς)}
    (secluded : client.IsSecluded) {text id : String}
    (known : client.page.contains id = true) {fault : Fault}
    (failed : client.renderMarkup text = (.error fault, after)) :
    client.renderInto text id = (.error fault, after) := by
  unfold renderInto
  simp only [known, Bool.not_true, Bool.false_eq_true, ↓reduceIte,
    secluded.abi, failed]

variable [LawfulRuntime μ]

/-- A render for a text leaves the page alone, and comes to the same on any
other page. -/
theorem renderMarkup_alike {client : Client (Instance μ ς)}
    (secluded : client.IsSecluded) (text : String) (page : Page) :
    ((client.renderMarkup text).2.IsSecluded ∧
      (client.renderMarkup text).2.page = client.page) ∧
      (client.setPage page).renderMarkup text =
        ((client.renderMarkup text).1,
          (client.renderMarkup text).2.setPage page) := by
  obtain ⟨result, after, left, moved, performed, performedMoved, unbound,
    same, rfl⟩ :=
    Instance.renderer_alike_onPages.renderText client.contract.entry text
      client.ledger client.running _
      (Instance.onPages_setPage secluded.bindings page)
  have rendered : client.renderMarkup text =
      (result, { client with ledger := after, running := left }) := by
    simp only [renderMarkup, secluded.abi, perform, performed]
  have renderedMoved : (client.setPage page).renderMarkup text =
      (result, { client with
        ledger := after
        running := Renderer.setPage page left }) := by
    simp only [renderMarkup, setPage, secluded.abi, perform, performedMoved]
  rw [rendered, renderedMoved]
  exact ⟨⟨⟨secluded.abi, unbound⟩, same⟩, rfl⟩

theorem renderMarkup_secluded {client : Client (Instance μ ς)}
    (secluded : client.IsSecluded) (text : String) :
    (client.renderMarkup text).2.IsSecluded ∧
      (client.renderMarkup text).2.page = client.page :=
  (renderMarkup_alike secluded text client.page).1

/-- Markup that is rendered goes into the element. -/
theorem renderInto_of_ok {client after : Client (Instance μ ς)}
    (secluded : client.IsSecluded) {text id markup : String}
    (rendered : client.renderMarkup text = (.ok markup, after)) {page : Page}
    (known : client.page.contains id = true)
    (filled : client.page.setInnerHtml id markup = .ok page) :
    client.renderInto text id = (.ok (), after.setPage page) := by
  have samePage := (renderMarkup_secluded secluded text).2
  rw [rendered] at samePage
  unfold renderInto
  simp only [known, Bool.not_true, Bool.false_eq_true, ↓reduceIte,
    secluded.abi, rendered, samePage, filled]

theorem instantiateWith_secluded {budget : Nat} {binary : Bytes}
    {entryName : Option String} {page : Page} {client : Client (Instance μ ς)}
    (started :
      Client.instantiateWith budget binary entryName page μ = .ok client)
    (abi : client.contract.abi = .cString)
    (imports : Runtime.imports client.running.module = []) :
    client.IsSecluded ∧ client.page = page := by
  obtain ⟨module, contract, running, begun, rfl⟩ :=
    exists_of_instantiateWith started
  obtain ⟨bindings, samePage⟩ := Instance.secluded_of_start begun imports
  exact ⟨⟨abi, bindings⟩, samePage⟩

theorem serve_secluded {client : Client (Instance μ ς)}
    (secluded : client.IsSecluded) (request : Request) :
    (client.serve request).2.IsSecluded := by
  cases request with
  | markup text =>
      exact (renderMarkup_secluded secluded text).1
  | into text id =>
      by_cases known : client.page.contains id = true
      · have kept := (renderMarkup_secluded secluded text).1
        rcases rendered : client.renderMarkup text with ⟨fault | markup, after⟩
        all_goals rw [rendered] at kept
        · rw [serve, renderInto_of_error secluded known rendered]
          exact kept
        · obtain ⟨page, filled⟩ := Page.exists_setInnerHtml known markup
          rw [serve, renderInto_of_ok secluded rendered known filled]
          exact isSecluded_setPage kept page
      · rw [serve, renderInto, Bool.eq_false_iff.mpr known]
        exact secluded

/-- A module that imports nothing cannot come by imports later. -/
theorem Becomes.secluded {client later : Client (Instance μ ς)}
    (becomes : client.Becomes later) (secluded : client.IsSecluded) :
    later.IsSecluded := by
  induction becomes with
  | refl =>
      exact secluded
  | serve becomes request inductionHypothesis =>
      exact serve_secluded inductionHypothesis request
  | setPage becomes page inductionHypothesis =>
      exact isSecluded_setPage inductionHypothesis page

end Client

end KeymapViewer
