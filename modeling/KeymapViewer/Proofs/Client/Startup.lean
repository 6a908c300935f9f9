import KeymapViewer.Client
import KeymapViewer.Proofs.Host.Answer
import KeymapViewer.Proofs.Wasm.Turn
import KeymapViewer.Stub

/-!
Modules that start. The start function of a module may call back as it likes,
but callbacks do not have the memory of the module yet. So no callback learns
an id or any markup, no handle of an element is ever made, and the page that
the module is started on is the page of the client.
-/

namespace KeymapViewer

open Wasm

/-! ## The values in a table of handles -/

namespace HandleTable

/-- The value is in an entry of the table or on its stack. -/
def Has (table : HandleTable) (value : HostValue) : Prop :=
  (∃ count, .occupied value count ∈ table.arena) ∨ value ∈ table.stack

variable {table after : HandleTable} {value other : HostValue}
  {handle copy : Handle}

theorem has_of_occupant? {entry count : Nat}
    (found : table.occupant? entry = some (value, count)) :
    table.Has value := by
  unfold occupant? at found
  split at found
  · rename_i there
    cases found
    exact .inl ⟨count, Array.mem_of_getElem? there⟩
  · cases found

/-- A slot that changes brings in its own value at most. -/
theorem Has.of_setSlot {entry : Nat} {slot : Slot}
    (has : (table.setSlot entry slot).Has other) :
    table.Has other ∨ ∃ count, slot = .occupied other count := by
  rcases has with ⟨count, member⟩ | member
  · rcases Array.mem_or_eq_of_mem_setIfInBounds member with old | new
    · exact .inl (.inl ⟨count, old⟩)
    · exact .inr ⟨count, new.symm⟩
  · exact .inl (.inr member)

theorem Has.of_add (has : (table.add value).2.Has other) :
    table.Has other ∨ other = value := by
  unfold add at has
  split at has
  · exact .inl has
  split at has
  · rcases Has.of_setSlot has with old | ⟨count, new⟩
    · exact .inl old
    · cases new
      exact .inr rfl
  · rcases has with ⟨count, member⟩ | member
    · rcases Array.mem_push.mp member with old | new
      · exact .inl (.inl ⟨count, old⟩)
      · cases new
        exact .inr rfl
    · exact .inl (.inr member)

/-- A copy of a handle names a value that the table has. -/
theorem Has.of_clone (cloned : table.clone handle = .ok (copy, after))
    (has : after.Has other) : table.Has other := by
  unfold clone at cloned
  split at cloned
  · cases cloned
    exact has
  split at cloned
  · split at cloned
    · rename_i value there
      obtain rfl := congrArg Prod.snd (Except.ok.inj cloned)
      rcases has.of_add with old | rfl
      · exact old
      · exact .inr (Array.mem_of_getElem? there)
    · cases cloned
  · split at cloned
    · rename_i value count found
      cases cloned
      rcases has.of_setSlot with old | ⟨_, same⟩
      · exact old
      · cases same
        exact has_of_occupant? found
    · cases cloned

theorem Has.of_release (released : table.release handle = .ok after)
    (has : after.Has other) : table.Has other := by
  unfold release at released
  split at released
  · cases released
    exact has
  split at released
  · cases released
  split at released
  · cases released
  rename_i value count found
  split at released
  · cases released
    rcases has.of_setSlot with old | ⟨_, same⟩
    · exact old
    · cases same
      exact has_of_occupant? found
  · cases released
    rcases Has.of_setSlot has with old | ⟨_, same⟩
    · exact old
    · cases same

/-- A handle names a value of the table or one of the fixed values. -/
theorem has_of_resolve (resolved : table.resolve handle = .ok value) :
    table.Has value ∨ value.singleton?.isSome = true := by
  unfold resolve at resolved
  split at resolved
  · split at resolved
    · rename_i there
      cases resolved
      exact .inl (.inr (Array.mem_of_getElem? there))
    · cases resolved
  split at resolved
  · cases resolved
    refine .inr ?_
    unfold HostValue.ofSingleton
    split
    all_goals rfl
  · split at resolved
    · rename_i found
      cases resolved
      exact .inl (has_of_occupant? found)
    · cases resolved

end HandleTable

/-! ## Callbacks before the memory is ready -/

namespace Host

/-- The host of a module that has not started yet, or is about to. -/
structure IsStarting (page : Page) (host : Host) : Prop where
  page : host.page = page
  memory : host.memoryReady = false
  handles : ∀ value, host.handles.Has value → value = .document

variable {page : Page} {host : Host} {memory : Memory}

theorem isStarting_new (page : Page) : (Host.new page).IsStarting page where
  page := rfl
  memory := rfl
  handles value has := by
    rcases has with ⟨count, member⟩ | member
    · cases Array.not_mem_empty _ member
    · cases Array.not_mem_empty _ member

namespace IsStarting

theorem readText (starting : host.IsStarting page) (memory : Memory)
    (pointer length : UInt32) :
    host.readText memory pointer length =
      .error CallbackMisuse.noMemory.fault := by
  rw [Host.readText, starting.memory]
  rfl

/-- No handle names an element. -/
theorem resolve_ne_element (starting : host.IsStarting page)
    (handle : Handle) (id : String) :
    host.resolve handle ≠ .ok (.element id) := by
  unfold Host.resolve
  intro resolved
  cases found : host.handles.resolve handle with
  | error misuse =>
      rw [found] at resolved
      cases resolved
  | ok value =>
      rw [found] at resolved
      cases resolved
      rcases HandleTable.has_of_resolve found with has | fixed
      · cases starting.handles _ has
      · cases fixed

theorem withHandles (starting : host.IsStarting page)
    {handles : HandleTable}
    (known : ∀ value, handles.Has value →
      host.handles.Has value ∨ value = .document) :
    Host.IsStarting page { host with handles } :=
  { starting with
    handles := fun value has =>
      (known value has).elim (starting.handles value) id }

/-- A callback that is carried out leaves a host that is starting still; in
particular it is none that throws. -/
theorem answer (starting : host.IsStarting page) {function : HostFunction}
    {arguments : List UInt32} {reply : Reply}
    (answered : host.answer memory function arguments = .ok reply) :
    ∃ values after, reply = .results values after ∧
      after.IsStarting page := by
  cases replies_of_answer answered with
  | documentAccessor =>
      exact ⟨_, _, rfl, starting.withHandles fun _ has =>
        HandleTable.Has.of_add has⟩
  | getElementById _ read | setInnerHtml _ read _ | throw read =>
      rw [starting.readText] at read
      cases read
  | objectDropRef released =>
      exact ⟨_, _, rfl, starting.withHandles fun _ has =>
        .inl (has.of_release released)⟩
  | objectCloneRef cloned =>
      exact ⟨_, _, rfl, starting.withHandles fun _ has =>
        .inl (has.of_clone cloned)⟩
  | unfit =>
      exact ⟨_, _, rfl, starting⟩

/-- A call leaves a starting host, whether it is answered or not. -/
theorem hostCalls (starting : host.IsStarting page)
    (bindings : List HostFunction) (function : Nat)
    (arguments : List Value) (memory : Memory) :
    (hostCalls bindings function arguments memory host).2.IsStarting
      page := by
  unfold KeymapViewer.hostCalls
  split
  · rename_i callback bound
    unfold Host.call
    cases answered :
        host.answer memory callback (arguments.map word) with
    | error fault =>
        exact ⟨starting.page, starting.memory, starting.handles⟩
    | ok reply =>
        obtain ⟨values, after, rfl, startingAfter⟩ :=
          starting.answer answered
        exact startingAfter
  · exact starting

end IsStarting

end Host

/-! ## Starting -/

namespace Instance

variable {μ ς : Type} [Runtime μ ς] {module : μ} {contract : Contract}
  {page : Page} {budget : Nat} {running : Instance μ ς}

/-- What a started instance is made of. -/
theorem exists_of_start
    (started : start module contract page budget = .ok running) :
    ∃ bindings store host,
      bindImports module = .ok bindings ∧
      Runtime.instantiate module (hostCalls bindings) budget
        (Host.new page) = (.ok store, host) ∧
      running.module = module ∧ running.bindings = bindings ∧
      running.host = { host with memoryReady := true } := by
  obtain ⟨bindings, bound, started⟩ := exists_of_bind_eq_ok started
  rcases instantiated :
      Runtime.instantiate module (hostCalls bindings) budget
        (Host.new page) with
    ⟨reason | store, host⟩
  · rw [instantiated] at started
    cases started
  rw [instantiated] at started
  simp only at started
  split at started
  · cases started
  obtain ⟨exported, -, started⟩ := exists_of_bind_eq_ok started
  obtain rfl := Except.ok.inj started
  exact ⟨bindings, store, host, bound, instantiated, rfl, rfl, rfl⟩

/-- Whatever its start function calls, in any order and number, a module that
has started has left the page alone, and holds handles of the document at
most. -/
theorem host_of_start [LawfulRuntime μ]
    (started : start module contract page budget = .ok running) :
    ∃ host : Host, host.IsStarting page ∧
      running.host = { host with memoryReady := true } := by
  obtain ⟨bindings, store, host, -, instantiated, -, -, same⟩ :=
    exists_of_start started
  have keeps : ∀ function arguments memory (host : Host),
      host.IsStarting page →
        (hostCalls bindings function arguments memory host).2.IsStarting
          page :=
    fun function arguments memory host starting =>
      starting.hostCalls bindings function arguments memory
  have kept := instantiate_keeps module keeps (Host.isStarting_new page)
    budget
  rw [instantiated] at kept
  exact ⟨host, kept, same⟩

end Instance

namespace Client

variable {μ ς : Type} [Runtime μ ς] {budget : Nat} {binary : Text.Bytes}
  {entryName : Option String} {page : Page}
  {client : Client (Instance μ ς)}

/-- A client has an empty ledger and an instance that was started. -/
theorem exists_of_instantiateWith
    (opened : Client.instantiateWith budget binary entryName page μ =
      .ok client) :
    ∃ (module : μ) (contract : Contract) (running : Instance μ ς),
      Instance.start module contract page budget = .ok running ∧
      client = ⟨contract, .empty, running⟩ := by
  obtain ⟨-, -, opened⟩ := exists_of_bind_eq_ok opened
  obtain ⟨module, -, opened⟩ := exists_of_bind_eq_ok opened
  obtain ⟨contract, -, opened⟩ := exists_of_bind_eq_ok opened
  obtain ⟨running, started, opened⟩ := exists_of_bind_eq_ok opened
  exact ⟨module, contract, running, mapError_eq_ok_iff.mp started,
    (Except.ok.inj opened).symm⟩

/-- A client that could be opened is on the page that it was opened on, and
its module has no way to change it without asking for an element first. This
holds on every lawful runtime, whatever the start function of the module asks
of its host, in any order and number. -/
theorem page_instantiateWith [LawfulRuntime μ]
    (opened : Client.instantiateWith budget binary entryName page μ =
      .ok client) :
    client.page = page ∧
      ∀ handle id,
        client.running.host.resolve handle ≠ .ok (.element id) := by
  obtain ⟨module, contract, running, started, rfl⟩ :=
    exists_of_instantiateWith opened
  obtain ⟨host, starting, same⟩ := Instance.host_of_start started
  constructor
  · change running.host.page = page
    rw [same]
    exact starting.page
  · intro handle id
    change running.host.resolve handle ≠ _
    rw [same]
    exact starting.resolve_ne_element handle id

/-- A module whose start function takes handles of the document, copies one
and gives it back. -/
def callingStart : Wasm.Module :=
  { Stub.frame
      [Stub.type 0 1, Stub.type 1 1, Stub.type 1 0, Stub.type 1 1,
        Stub.type 2 0, Stub.type 1 0, Stub.type 1 1, Stub.type 0 0]
      [⟨Stub.importModule, HostFunction.documentAccessor.stem, .function 0⟩,
        ⟨Stub.importModule, HostFunction.objectCloneRef.stem, .function 1⟩,
        ⟨Stub.importModule, HostFunction.objectDropRef.stem, .function 2⟩]
      [("alloc", Stub.allocCode), ("dealloc", Stub.nothingCode),
        ("dealloc_str", Stub.nothingCode), ("svg", Stub.echoCode 3),
        ("begin", ⟨[], [.call 0, .call 1, .call 2, .call 0, .drop]⟩)] [] with
    start := some 7 }

theorem page_instantiateWith_callingStart :
    ∃ client,
      Client.instantiateWith 100 callingStart.encode none
          (Page.parse "<p id=a></p>") = .ok client ∧
        client.liveHandles = 2 ∧
        client.page = Page.parse "<p id=a></p>" ∧
        ∀ handle id,
          client.running.host.resolve handle ≠ .ok (.element id) := by
  have observed :
      (Client.instantiateWith 100 callingStart.encode none
        (Page.parse "<p id=a></p>")).toOption.map Client.liveHandles =
          some 2 := by
    decide +kernel
  rcases opened :
      Client.instantiateWith 100 callingStart.encode none
        (Page.parse "<p id=a></p>") with fault | client
  · rw [opened] at observed
    cases observed
  · rw [opened] at observed
    exact ⟨client, rfl, Option.some.inj observed,
      page_instantiateWith opened⟩

end Client

end KeymapViewer
