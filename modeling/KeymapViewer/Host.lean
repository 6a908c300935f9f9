import KeymapViewer.Handle
import KeymapViewer.HostFunction
import KeymapViewer.Memory.Span
import KeymapViewer.Page.Basic
import KeymapViewer.Wasm.Types

/-!
The host as a module sees it: the page, handles to host values, and the
callbacks that work on them.
-/

namespace KeymapViewer

open Wasm

structure Host where
  page : Page
  handles : HandleTable
  /-- Whether callbacks can reach the memory of the module. -/
  memoryReady : Bool
  thrown : Option String
  failure : Option Fault

inductive CallbackMisuse where
  | noMemory
  | notDocument (value : HostValue) (handle : Handle)
  | absentElement (handle : Handle)
  | notElement (value : HostValue) (handle : Handle)
  deriving DecidableEq, Repr

namespace CallbackMisuse

def message : CallbackMisuse → String
  | .noMemory => "Module called the host before its memory was available"
  | .notDocument value _ =>
    s!"getElementById called on {value.show} instead of the document"
  | .absentElement _ =>
    "Module set innerHTML on an element that is not in the page"
  | .notElement value _ =>
    s!"innerHTML set on {value.show}, which is not an element"

def kind : CallbackMisuse → Fault.Kind
  | .absentElement _ => .config
  | _ => .contract

/-- The handles in these faults are shown as the module passed them, as
signed numbers. -/
def details : CallbackMisuse → List (Fault.Key × String)
  | .noMemory => []
  | .notDocument _ handle | .absentElement handle | .notElement _ handle =>
    [(.handle, toString handle.toSigned)]

def fault (misuse : CallbackMisuse) : Fault :=
  ⟨misuse.kind, misuse.message, misuse.details⟩

end CallbackMisuse

namespace Host

def new (page : Page) : Host := ⟨page, .empty, false, none, none⟩

/-- Forgets what earlier calls left behind. -/
def beginCall (host : Host) : Host :=
  { host with
    handles := host.handles.clearStack
    thrown := none
    failure := none }

def clearStack (host : Host) : Host :=
  { host with handles := host.handles.clearStack }

def readText (host : Host) (memory : Memory) (pointer length : UInt32) :
    Except Fault String :=
  if host.memoryReady then
    (memory.readText pointer length).mapError SpanFault.fault
  else
    .error CallbackMisuse.noMemory.fault

def resolve (host : Host) (handle : Handle) : Except Fault HostValue :=
  (host.handles.resolve handle).mapError HandleTable.Misuse.fault

/-! ## Callbacks -/

def documentAccessor (host : Host) : UInt32 × Host :=
  let (handle, handles) := host.handles.add .document
  (handle.raw, { host with handles })

/-- Hands out a handle to the element whose id is given by a span, or the
handle of null. -/
def getElementById (host : Host) (memory : Memory)
    (document pointer length : UInt32) : Except Fault (UInt32 × Host) := do
  let handle : Handle := ⟨document⟩
  match ← host.resolve handle with
  | .document =>
    let id ← host.readText memory pointer length
    let value := if host.page.contains id then HostValue.element id else .null
    let (found, handles) := host.handles.add value
    return (found.raw, { host with handles })
  | other => throw (CallbackMisuse.notDocument other handle).fault

/-- Replaces the content of an element by the markup in a span. -/
def setInnerHtml (host : Host) (memory : Memory)
    (element pointer length : UInt32) : Except Fault Host := do
  let handle : Handle := ⟨element⟩
  match ← host.resolve handle with
  | .element id =>
    let markup ← host.readText memory pointer length
    let page ← host.page.setInnerHtml id markup
    return { host with page }
  | .null => throw (CallbackMisuse.absentElement handle).fault
  | other => throw (CallbackMisuse.notElement other handle).fault

def objectDropRef (host : Host) (handle : UInt32) : Except Fault Host := do
  let handles ←
    (host.handles.release ⟨handle⟩).mapError HandleTable.Misuse.fault
  return { host with handles }

def objectCloneRef (host : Host) (handle : UInt32) :
    Except Fault (UInt32 × Host) := do
  let (copy, handles) ←
    (host.handles.clone ⟨handle⟩).mapError HandleTable.Misuse.fault
  return (copy.raw, { host with handles })

inductive Reply where
  | results (values : List UInt32) (host : Host)
  /-- The module threw a message, which ends its call. -/
  | threw (message : String)

def answer (host : Host) (memory : Memory) (function : HostFunction)
    (arguments : List UInt32) : Except Fault Reply := do
  match function, arguments with
  | .documentAccessor, _ =>
    let (handle, host) := host.documentAccessor
    return .results [handle] host
  | .getElementById, [document, pointer, length] =>
    let (handle, host) ← host.getElementById memory document pointer length
    return .results [handle] host
  | .setInnerHtml, [element, pointer, length] =>
    return .results [] (← host.setInnerHtml memory element pointer length)
  | .objectDropRef, [handle] =>
    return .results [] (← host.objectDropRef handle)
  | .objectCloneRef, [handle] =>
    let (copy, host) ← host.objectCloneRef handle
    return .results [copy] host
  | .throw, [pointer, length] =>
    return .threw (← host.readText memory pointer length)
  | _, _ => return .results [] host

def word : Value → UInt32
  | .i32 word => word
  | _ => 0

/-- Carries out a callback. One that fails ends the call of the module and
changes nothing but the record of why. -/
def call (function : HostFunction) (arguments : List Value) (memory : Memory)
    (host : Host) : Option (List Value) × Host :=
  match host.answer memory function (arguments.map word) with
  | .ok (.results values host) => (some (values.map .i32), host)
  | .ok (.threw message) => (none, { host with thrown := some message })
  | .error fault => (none, { host with failure := some fault })

/-- Why a call of the export ended early: the fault of a callback, the
message that the module threw, or else a trap. -/
def callFault (host : Host) (exportName reason : String) : Fault :=
  match host.failure, host.thrown with
  | some fault, _ => fault
  | none, some message =>
    (Fault.reported message).withDetail .exportName exportName
  | none, none =>
    (Fault.module s!"Module trapped in '{exportName}': {reason}").withDetail
      .exportName exportName

def forgetCause (host : Host) : Host :=
  match host.failure with
  | some _ => { host.clearStack with failure := none }
  | none => { host.clearStack with thrown := none }

end Host

end KeymapViewer
