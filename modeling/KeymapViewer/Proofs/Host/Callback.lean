import KeymapViewer.Proofs.Client.Startup
import KeymapViewer.Proofs.Handle.Values
import KeymapViewer.Proofs.Host.Answer
import KeymapViewer.Proofs.Host.Steps
import KeymapViewer.Proofs.Page.Position

/-!
What callbacks do, and what they leave alone. Whatever a module has asked of
its host so far, a callback either does all of its work or none of it.
-/

namespace KeymapViewer

open Wasm

namespace Host

variable {host after : Host} {memory : Memory}

/-! ## Hosts in use -/

/-- The hosts that modules may meet: callbacks are called in any order, also
while the module starts, with any words and over any memory, values are lent
to the module, and the page changes between calls. -/
inductive InUse : Host → Prop
  | new (html : String) (edits : List Page.Edit) :
      InUse (Host.new ((Page.parse html).run edits))
  | ready {host : Host} (before : InUse host) :
      InUse { host with memoryReady := true }
  | call {host : Host} (before : InUse host) (function : HostFunction)
      (arguments : List Value) (memory : Memory) :
      InUse (Host.call function arguments memory host).2
  | begin {host : Host} (before : InUse host) : InUse host.beginCall
  | forget {host : Host} (before : InUse host) : InUse host.forgetCause
  | lend {host : Host} (before : InUse host) (value : HostValue) :
      InUse { host with handles := (host.handles.push value).2 }
  | edit {host : Host} (before : InUse host) (change : Page.Edit) :
      InUse { host with page := host.page.edit change }

/-- The page draws a document, and the vacant slots of the handle table form
a chain. -/
structure Sound (host : Host) : Prop where
  page : ∃ layouts, host.page.Draws layouts
  handles : ∃ free, host.handles.Linked free

namespace Sound

theorem withHandles (sound : host.Sound) {handles : HandleTable}
    (linked : ∃ free, handles.Linked free) : Sound { host with handles } :=
  ⟨sound.page, linked⟩

/-- What is on the stack of a table does not matter to its chain. -/
theorem withStack (sound : host.Sound) (stack : Array HostValue) :
    ∃ free, HandleTable.Linked { host.handles with stack } free := by
  obtain ⟨free, linked⟩ := sound.handles
  exact ⟨free, linked.chain, linked.distinct, linked.complete⟩

theorem answer (sound : host.Sound) {function : HostFunction}
    {arguments : List UInt32} {values : List UInt32}
    (answered : host.answer memory function arguments =
      .ok (.results values after)) : after.Sound := by
  obtain ⟨free, linked⟩ := sound.handles
  cases replies_of_answer answered with
  | documentAccessor =>
      exact sound.withHandles (linked.exists_add .document)
  | @getElementById document pointer length id _ _ =>
      exact sound.withHandles (linked.exists_add (host.named id))
  | setInnerHtml _ _ replaced =>
      obtain ⟨layouts, draws⟩ := sound.page
      exact ⟨(Page.follows_setInnerHtml draws replaced).draws, free, linked⟩
  | objectDropRef released =>
      exact sound.withHandles (linked.of_release released)
  | objectCloneRef cloned =>
      exact sound.withHandles (linked.of_clone cloned)
  | unfit =>
      exact sound

theorem call (sound : host.Sound) (function : HostFunction)
    (arguments : List Value) (memory : Memory) :
    (Host.call function arguments memory host).2.Sound := by
  unfold Host.call
  cases answered : host.answer memory function (arguments.map word) with
  | error fault =>
      exact ⟨sound.page, sound.handles⟩
  | ok reply =>
      cases reply with
      | threw message =>
          exact ⟨sound.page, sound.handles⟩
      | results values after =>
          exact sound.answer answered

theorem new (html : String) (edits : List Page.Edit) :
    (Host.new ((Page.parse html).run edits)).Sound := by
  obtain ⟨layouts, -, draws, -⟩ := Page.parse_draws html
  exact ⟨Page.draws_run draws edits, [], HandleTable.Linked.empty⟩

end Sound

theorem InUse.sound (inUse : host.InUse) : host.Sound := by
  induction inUse with
  | new html edits =>
      exact .new html edits
  | ready before inductionHypothesis =>
      exact ⟨inductionHypothesis.page, inductionHypothesis.handles⟩
  | call before function arguments memory inductionHypothesis =>
      exact inductionHypothesis.call function arguments memory
  | begin before inductionHypothesis =>
      exact ⟨inductionHypothesis.page, inductionHypothesis.withStack #[]⟩
  | @forget host before inductionHypothesis =>
      have cleared : ∃ free, host.handles.clearStack.Linked free :=
        inductionHypothesis.withStack #[]
      unfold forgetCause
      split
      · exact ⟨inductionHypothesis.page, cleared⟩
      · exact ⟨inductionHypothesis.page, cleared⟩
  | @lend host before value inductionHypothesis =>
      exact ⟨inductionHypothesis.page,
        inductionHypothesis.withStack (host.handles.stack.push value)⟩
  | edit before change inductionHypothesis =>
      obtain ⟨layouts, draws⟩ := inductionHypothesis.page
      exact ⟨(Page.follows_edit draws change).draws,
        inductionHypothesis.handles⟩

theorem InUse.hostCalls (inUse : host.InUse) (bindings : List HostFunction)
    (function : Nat) (arguments : List Value) (memory : Memory) :
    (hostCalls bindings function arguments memory host).2.InUse := by
  unfold KeymapViewer.hostCalls
  cases bindings[function]? with
  | none =>
      exact inUse
  | some callback =>
      exact .call inUse callback arguments memory

end Host

/-- A module meets only such hosts, whatever it does with them. -/
theorem Instance.inUse_invoke {μ ς : Type} [Runtime μ ς] [LawfulRuntime μ]
    {running : Instance μ ς} (inUse : running.host.InUse) (function : Nat)
    (arguments : List UInt32) :
    ((invoke function arguments).run running).2.host.InUse :=
  Wasm.invoke_keeps running.module
    (fun called values memory _ inUse =>
      inUse.hostCalls running.bindings called values memory)
    inUse running.budget function (arguments.map .i32) running.store

theorem Client.inUse_of_instantiateWith {μ ς : Type} [Runtime μ ς]
    [LawfulRuntime μ] {budget : Nat} {binary : Text.Bytes}
    {entryName : Option String} {html : String} {edits : List Page.Edit}
    {client : Client (Instance μ ς)}
    (opened : Client.instantiateWith budget binary entryName
      ((Page.parse html).run edits) μ = .ok client) :
    client.running.host.InUse ∧ client.running.host.memoryReady = true := by
  obtain ⟨module, contract, running, started, rfl⟩ :=
    exists_of_instantiateWith opened
  obtain ⟨bindings, store, host, -, instantiated, -, -, same⟩ :=
    Instance.exists_of_start started
  have keeps : ∀ function arguments memory (host : Host), host.InUse →
      (hostCalls bindings function arguments memory host).2.InUse :=
    fun function arguments memory host inUse =>
      inUse.hostCalls bindings function arguments memory
  have inUse := Wasm.instantiate_keeps module keeps (.new html edits) budget
  rw [instantiated] at inUse
  change running.host.InUse ∧ _
  rw [same]
  exact ⟨.ready inUse, rfl⟩

namespace Host

variable {host after : Host} {memory : Memory}

/-! ## All or nothing -/

theorem call_eq_some_iff {function : HostFunction} {arguments : List Value}
    {values : List Value} :
    Host.call function arguments memory host = (some values, after) ↔
      ∃ words, values = words.map .i32 ∧
        host.answer memory function (arguments.map word) =
          .ok (.results words after) := by
  unfold Host.call
  cases host.answer memory function (arguments.map word) with
  | error fault =>
      simp
  | ok reply =>
      cases reply with
      | threw message =>
          simp
      | results words left =>
          simp only [Prod.mk.injEq, Option.some.injEq, Except.ok.injEq,
            Reply.results.injEq]
          constructor
          · rintro ⟨rfl, rfl⟩
            exact ⟨words, rfl, rfl, rfl⟩
          · rintro ⟨_, rfl, rfl, rfl⟩
            exact ⟨rfl, rfl⟩

theorem same_of_call_eq_none {function : HostFunction}
    {arguments : List Value}
    (failed : Host.call function arguments memory host = (none, after)) :
    after.page = host.page ∧ after.handles = host.handles := by
  unfold Host.call at failed
  cases answered : host.answer memory function (arguments.map word) with
  | error fault =>
      rw [answered] at failed
      cases failed
      exact ⟨rfl, rfl⟩
  | ok reply =>
      rw [answered] at failed
      cases reply with
      | threw message =>
          cases failed
          exact ⟨rfl, rfl⟩
      | results words left =>
          cases failed

theorem call_getElementById_iff {document pointer length : UInt32}
    {values : List Value} :
    Host.call .getElementById [.i32 document, .i32 pointer, .i32 length]
        memory host = (some values, after) ↔
      ∃ found, values = [.i32 found] ∧
        host.getElementById memory document pointer length =
          .ok (found, after) := by
  rw [call_eq_some_iff]
  simp only [List.map_cons, List.map_nil, word, Host.answer, bind,
    Except.bind]
  cases host.getElementById memory document pointer length with
  | error fault =>
      simp
  | ok result =>
      obtain ⟨handle, left⟩ := result
      simp only [pure, Except.pure, Except.ok.injEq, Reply.results.injEq,
        Prod.mk.injEq]
      constructor
      · rintro ⟨_, rfl, rfl, rfl⟩
        exact ⟨handle, rfl, rfl, rfl⟩
      · rintro ⟨_, rfl, rfl, rfl⟩
        exact ⟨_, rfl, rfl, rfl⟩

theorem call_setInnerHtml_iff {element pointer length : UInt32}
    {values : List Value} :
    Host.call .setInnerHtml [.i32 element, .i32 pointer, .i32 length]
        memory host = (some values, after) ↔
      values = [] ∧
        host.setInnerHtml memory element pointer length = .ok after := by
  rw [call_eq_some_iff]
  simp only [List.map_cons, List.map_nil, word, Host.answer, bind,
    Except.bind]
  cases host.setInnerHtml memory element pointer length with
  | error fault =>
      simp
  | ok left =>
      simp only [pure, Except.pure, Except.ok.injEq, Reply.results.injEq]
      constructor
      · rintro ⟨_, rfl, rfl, rfl⟩
        exact ⟨rfl, rfl⟩
      · rintro ⟨rfl, rfl⟩
        exact ⟨_, rfl, rfl, rfl⟩

/-- What is certain about callbacks over a memory. A callback that gives up,
also when it does so between two of its steps, has touched neither the page
nor the handles; those of elements succeed exactly when they are asked about
something that there is. -/
structure AllOrNothing (host : Host) (memory : Memory) : Prop where
  stepwise : ∀ function arguments,
    Steps.conclude
        ((Steps.callback memory function (arguments.map word)).perform host) =
      Host.call function arguments memory host
  failing : ∀ function arguments after,
    Host.call function arguments memory host = (none, after) →
      after.page = host.page ∧ after.handles = host.handles
  setInnerHtml_iff : ∀ element pointer length,
    (∃ values after,
      Host.call .setInnerHtml [.i32 element, .i32 pointer, .i32 length] memory
        host = (some values, after)) ↔
      ∃ id markup, host.handles.resolve ⟨element⟩ = .ok (.element id) ∧
        host.page.contains id = true ∧
        memory.readText pointer length = .ok markup
  setInnerHtml : ∀ element pointer length values after,
    Host.call .setInnerHtml [.i32 element, .i32 pointer, .i32 length] memory
        host = (some values, after) →
      values = [] ∧ after.handles = host.handles ∧
        ∃ id markup slot position,
          host.handles.resolve ⟨element⟩ = .ok (.element id) ∧
          memory.readText pointer length = .ok markup ∧
          host.page.slotOf id = .ok slot ∧
          host.page.Substitutes after.page slot position markup
  getElementById_iff : ∀ document pointer length,
    (∃ values after,
      Host.call .getElementById [.i32 document, .i32 pointer, .i32 length]
        memory host = (some values, after)) ↔
      host.handles.resolve ⟨document⟩ = .ok .document ∧
        ∃ id, memory.readText pointer length = .ok id
  getElementById : ∀ document pointer length values after,
    Host.call .getElementById [.i32 document, .i32 pointer, .i32 length]
        memory host = (some values, after) →
      after.page = host.page ∧
        (∀ other value, host.handles.resolve other = .ok value →
          after.handles.resolve other = .ok value) ∧
        ∃ id handle, memory.readText pointer length = .ok id ∧
          values = [.i32 (Handle.raw handle)] ∧
          if host.page.contains id then
            after.handles.resolve handle = .ok (.element id)
          else handle = .null ∧ after.handles = host.handles

theorem InUse.allOrNothing (inUse : host.InUse)
    (ready : host.memoryReady = true)
    (room : host.handles.arena.size < Handle.entryLimit) (memory : Memory) :
    host.AllOrNothing memory := by
  obtain ⟨⟨layouts, draws⟩, free, linked⟩ := inUse.sound
  refine
    { stepwise := fun function arguments =>
        Steps.conclude_callback host memory draws function arguments
      failing := fun _ _ _ => same_of_call_eq_none
      setInnerHtml_iff := ?_
      setInnerHtml := ?_
      getElementById_iff := ?_
      getElementById := ?_ }
  · intro element pointer length
    simp only [call_setInnerHtml_iff, setInnerHtml_eq_ok_iff,
      resolve_eq_ok_iff, readText_eq_ok_iff ready]
    constructor
    · rintro ⟨_, _, -, id, markup, page, named, read, done, -⟩
      exact ⟨id, markup, named, Page.contains_of_setInnerHtml done, read⟩
    · rintro ⟨id, markup, named, known, read⟩
      obtain ⟨page, done⟩ := Page.exists_setInnerHtml known markup
      exact ⟨[], _, rfl, id, markup, page, named, read, done, rfl⟩
  · intro element pointer length values after called
    simp only [call_setInnerHtml_iff, setInnerHtml_eq_ok_iff,
      resolve_eq_ok_iff, readText_eq_ok_iff ready] at called
    obtain ⟨rfl, id, markup, page, named, read, done, rfl⟩ := called
    obtain ⟨slot, leads⟩ :=
      Page.exists_slotOf (Page.contains_of_setInnerHtml done)
    obtain ⟨own, below, found⟩ := Page.isElement_of_slotOf draws leads
    obtain ⟨position, place⟩ := draws.exists_slotAt? found
    exact ⟨rfl, rfl, id, markup, slot, position, named, read, leads,
      Page.substitutes_setInnerHtml draws leads place done⟩
  · intro document pointer length
    simp only [call_getElementById_iff, getElementById_eq_ok_iff,
      resolve_eq_ok_iff, readText_eq_ok_iff ready]
    constructor
    · rintro ⟨_, _, _, -, named, id, read, -⟩
      exact ⟨named, id, read⟩
    · rintro ⟨named, id, read⟩
      exact ⟨_, _, _, rfl, named, id, read, rfl, rfl⟩
  · intro document pointer length values after called
    simp only [call_getElementById_iff, getElementById_eq_ok_iff,
      resolve_eq_ok_iff, readText_eq_ok_iff ready] at called
    obtain ⟨_, rfl, -, id, read, rfl, rfl⟩ := called
    refine ⟨rfl, fun other value resolved =>
      HandleTable.resolve_add_of_ok linked resolved _, id, _, read, rfl, ?_⟩
    by_cases known : host.page.contains id = true
    · have element : host.named id = .element id := if_pos known
      rw [if_pos known, element]
      exact HandleTable.resolve_add_self linked room (.element id)
    · have absent : host.named id = .null := if_neg known
      rw [if_neg known, absent]
      exact ⟨rfl, rfl⟩

/-- A host that has given its module a handle of the document, over a memory
full of the letter a. -/
def asked : Host :=
  (Host.call .documentAccessor [] (.new 16 97)
    { Host.new (Page.parse "<p id=a></p>") with memoryReady := true }).2

theorem allOrNothing_asked :
    asked.InUse ∧ asked.memoryReady = true ∧
      asked.handles.arena.size < Handle.entryLimit ∧
      asked.AllOrNothing (.new 16 97) := by
  have inUse : asked.InUse := .call (.ready (.new "<p id=a></p>" [])) _ _ _
  have room : asked.handles.arena.size < Handle.entryLimit := by
    decide +kernel
  exact ⟨inUse, rfl, room, inUse.allOrNothing rfl room _⟩

-- An id that the page has, and a span that ends outside the memory.
example :
    (Host.call .getElementById [.i32 8, .i32 0, .i32 1] (.new 16 97)
        asked).1 = some [.i32 10] ∧
      (Host.call .getElementById [.i32 8, .i32 (-1), .i32 2] (.new 16 97)
        asked).1 = none := by
  decide +kernel

end Host

end KeymapViewer
