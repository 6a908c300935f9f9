import KeymapViewer.Instance
import KeymapViewer.Proofs.Memory.CText
import KeymapViewer.Proofs.Wasm.Run
import KeymapViewer.Stub

/-!
The stub that fills an element. It looks the element up, sets its content, and
gives back the handles it got; the callbacks do to the page what the host
would do itself.
-/

namespace KeymapViewer.Stub

open Text Wasm

/-- The callbacks that the stub is bound to, in the order of its imports. -/
def fillBindings : List HostFunction :=
  [.documentAccessor, .getElementById, .setInnerHtml, .objectDropRef, .throw]

/-! ## Handles -/

def documentHeld : HandleTable := ⟨#[.occupied .document 1], none, #[]⟩

def elementHeld (id : String) : HandleTable :=
  ⟨#[.occupied .document 1, .occupied (.element id) 1], none, #[]⟩

def elementDropped : HandleTable :=
  ⟨#[.occupied .document 1, .vacant none], some 1, #[]⟩

def allDropped : HandleTable :=
  ⟨#[.vacant (some 1), .vacant none], some 0, #[]⟩

section Callbacks

variable {host : Host} {memory : Memory} {id text : String} {page : Page}
  {pointer length : UInt32}

theorem readText_of_ready (ready : host.memoryReady = true)
    (read : memory.readText pointer length = .ok text) :
    host.readText memory pointer length = .ok text := by
  rw [Host.readText, if_pos ready, read]
  rfl

theorem call_document (unused : host.handles = .empty) :
    hostCalls fillBindings 0 [] memory host =
      (some [.i32 8], { host with handles := documentHeld }) := by
  have added : host.documentAccessor =
      (8, { host with handles := documentHeld }) := by
    rw [Host.documentAccessor, unused]
    rfl
  simp only [hostCalls, fillBindings, List.getElem?_cons_zero, Host.call,
    Host.answer, added]
  rfl

theorem call_getElement (held : host.handles = documentHeld)
    (known : host.page.contains id = true)
    (read : host.readText memory pointer length = .ok id) :
    hostCalls fillBindings 1 [.i32 8, .i32 pointer, .i32 length] memory host =
      (some [.i32 10], { host with handles := elementHeld id }) := by
  have resolved : host.resolve ⟨8⟩ = .ok .document := by
    rw [Host.resolve, held]
    rfl
  have found : host.getElementById memory 8 pointer length =
      .ok (10, { host with handles := elementHeld id }) := by
    simp only [Host.getElementById, resolved, read, known, held, bind,
      Except.bind, if_true]
    rfl
  simp only [hostCalls, fillBindings, List.getElem?_cons_succ,
    List.getElem?_cons_zero, Host.call, List.map_cons, List.map_nil,
    Host.word, Host.answer, found]
  rfl

theorem call_setInnerHtml (held : host.handles = elementHeld id)
    (read : host.readText memory pointer length = .ok text)
    (changed : host.page.setInnerHtml id text = .ok page) :
    hostCalls fillBindings 2 [.i32 10, .i32 pointer, .i32 length] memory
        host =
      (some [], { host with page }) := by
  have resolved : host.resolve ⟨10⟩ = .ok (.element id) := by
    rw [Host.resolve, held]
    rfl
  have set : host.setInnerHtml memory 10 pointer length =
      .ok { host with page } := by
    simp only [Host.setInnerHtml, resolved, read, changed, bind, Except.bind]
    rfl
  simp only [hostCalls, fillBindings, List.getElem?_cons_succ,
    List.getElem?_cons_zero, Host.call, List.map_cons, List.map_nil,
    Host.word, Host.answer, set]
  rfl

theorem call_dropRef {handle : UInt32} {handles : HandleTable}
    (released : host.handles.release ⟨handle⟩ = .ok handles) :
    hostCalls fillBindings 3 [.i32 handle] memory host =
      (some [], { host with handles }) := by
  have dropped : host.objectDropRef handle = .ok { host with handles } := by
    simp only [Host.objectDropRef, released, bind, Except.bind]
    rfl
  simp only [hostCalls, fillBindings, List.getElem?_cons_succ,
    List.getElem?_cons_zero, Host.call, List.map_cons, List.map_nil,
    Host.word, Host.answer, dropped]
  rfl

end Callbacks

/-! ## The code -/

/-- The imports that the render function calls. -/
structure ImportsCallbacks (module : Module) : Prop where
  document : Imports module 0 (type 0 1)
  getElement : Imports module 1 (type 3 1)
  setInnerHtml : Imports module 2 (type 3 0)
  dropRef : Imports module 3 (type 1 0)

/-- The render function after so many of its instructions. -/
def fillFrame (arguments : List Value) (document element : UInt32)
    (operands : List Value) (done : Nat) : Frame :=
  { arity := 0
    locals := arguments ++ [.i32 document, .i32 element]
    operands
    code := (setMarkupCode 0 1 2 3).body.drop done
    labels := [] }

/-- A call puts the text into the element, and holds no handle at its end. -/
theorem setMarkup_reaches_end {module : Module}
    (imports : ImportsCallbacks module) {store : Store} {host : Host}
    {id text : String} {page : Page}
    {pointer length target targetLength : UInt32}
    (unused : host.handles = .empty) (ready : host.memoryReady = true)
    (known : host.page.contains id = true)
    (readText : store.memory.readText pointer length = .ok text)
    (readId : store.memory.readText target targetLength = .ok id)
    (changed : host.page.setInnerHtml id text = .ok page)
    (callers : List Frame) :
    Config.Reaches module (hostCalls fillBindings) 15
      ⟨store, host,
        .ofCall (type 4 0) (setMarkupCode 0 1 2 3)
          [.i32 targetLength, .i32 target, .i32 length, .i32 pointer],
        callers⟩
      ⟨store, { host with page, handles := allDropped },
        fillFrame [.i32 pointer, .i32 length, .i32 target, .i32 targetLength]
          8 10 [] 15,
        callers⟩ := by
  -- The callbacks never look into the arguments, so that the frames around
  -- them are the same for all.
  generalize argumentsEq : [Value.i32 pointer, .i32 length, .i32 target,
    .i32 targetLength] = arguments
  have document : Config.Reaches module (hostCalls fillBindings) 1
      ⟨store, host, .ofCall (type 4 0) (setMarkupCode 0 1 2 3)
        arguments.reverse, callers⟩
      ⟨store, { host with handles := documentHeld },
        fillFrame arguments 0 0 [.i32 8] 1, callers⟩ := by
    subst arguments
    exact .hostCall [] imports.document rfl (call_document unused)
  have askFor : Config.Reaches module (hostCalls fillBindings) 4
      ⟨store, { host with handles := documentHeld },
        fillFrame arguments 0 0 [.i32 8] 1, callers⟩
      ⟨store, { host with handles := documentHeld },
        fillFrame arguments 8 0
          [.i32 targetLength, .i32 target, .i32 8] 5, callers⟩ := by
    subst arguments
    exact ⟨4, Nat.le_refl 4, fun _ => rfl⟩
  have getElement : Config.Reaches module (hostCalls fillBindings) 1
      ⟨store, { host with handles := documentHeld },
        fillFrame arguments 8 0
          [.i32 targetLength, .i32 target, .i32 8] 5, callers⟩
      ⟨store, { host with handles := elementHeld id },
        fillFrame arguments 8 0 [.i32 10] 6, callers⟩ := by
    have answered : hostCalls fillBindings 1
        [.i32 8, .i32 target, .i32 targetLength] store.memory
        { host with handles := documentHeld } =
        (some [.i32 10], { host with handles := elementHeld id }) :=
      call_getElement rfl known (readText_of_ready ready readId)
    exact .hostCall [.i32 targetLength, .i32 target, .i32 8]
      imports.getElement rfl answered
  have fill : Config.Reaches module (hostCalls fillBindings) 4
      ⟨store, { host with handles := elementHeld id },
        fillFrame arguments 8 0 [.i32 10] 6, callers⟩
      ⟨store, { host with handles := elementHeld id },
        fillFrame arguments 8 10
          [.i32 length, .i32 pointer, .i32 10] 10, callers⟩ := by
    subst arguments
    exact ⟨4, Nat.le_refl 4, fun _ => rfl⟩
  have setInnerHtml : Config.Reaches module (hostCalls fillBindings) 1
      ⟨store, { host with handles := elementHeld id },
        fillFrame arguments 8 10
          [.i32 length, .i32 pointer, .i32 10] 10, callers⟩
      ⟨store, { host with page, handles := elementHeld id },
        fillFrame arguments 8 10 [] 11, callers⟩ := by
    have answered : hostCalls fillBindings 2
        [.i32 10, .i32 pointer, .i32 length] store.memory
        { host with handles := elementHeld id } =
        (some [], { host with page, handles := elementHeld id }) :=
      call_setInnerHtml rfl (readText_of_ready ready readText) changed
    exact .hostCall [.i32 length, .i32 pointer, .i32 10]
      imports.setInnerHtml rfl answered
  have takeElement : Config.Reaches module (hostCalls fillBindings) 1
      ⟨store, { host with page, handles := elementHeld id },
        fillFrame arguments 8 10 [] 11, callers⟩
      ⟨store, { host with page, handles := elementHeld id },
        fillFrame arguments 8 10 [.i32 10] 12, callers⟩ := by
    subst arguments
    exact ⟨1, Nat.le_refl 1, fun _ => rfl⟩
  have dropElement : Config.Reaches module (hostCalls fillBindings) 1
      ⟨store, { host with page, handles := elementHeld id },
        fillFrame arguments 8 10 [.i32 10] 12, callers⟩
      ⟨store, { host with page, handles := elementDropped },
        fillFrame arguments 8 10 [] 13, callers⟩ :=
    .hostCall [.i32 10] imports.dropRef rfl (call_dropRef rfl)
  have takeDocument : Config.Reaches module (hostCalls fillBindings) 1
      ⟨store, { host with page, handles := elementDropped },
        fillFrame arguments 8 10 [] 13, callers⟩
      ⟨store, { host with page, handles := elementDropped },
        fillFrame arguments 8 10 [.i32 8] 14, callers⟩ := by
    subst arguments
    exact ⟨1, Nat.le_refl 1, fun _ => rfl⟩
  have dropDocument : Config.Reaches module (hostCalls fillBindings) 1
      ⟨store, { host with page, handles := elementDropped },
        fillFrame arguments 8 10 [.i32 8] 14, callers⟩
      ⟨store, { host with page, handles := allDropped },
        fillFrame arguments 8 10 [] 15, callers⟩ :=
    .hostCall [.i32 8] imports.dropRef rfl (call_dropRef rfl)
  have whole := document.trans <| askFor.trans <| getElement.trans <|
    fill.trans <| setInnerHtml.trans <| takeElement.trans <|
    dropElement.trans <| takeDocument.trans dropDocument
  subst arguments
  exact whole

end KeymapViewer.Stub
