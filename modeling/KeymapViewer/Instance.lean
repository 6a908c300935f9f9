import KeymapViewer.Contract
import KeymapViewer.Guest
import KeymapViewer.Host
import KeymapViewer.Word

/-!
Running keymap modules: how imports are bound to callbacks, how exports are
found, and the module as a guest of the host.
-/

namespace KeymapViewer

open Wasm

inductive StartFault where
  | notFunction (import_ : String)
  | unknownImport (import_ : String)
  | wrongSignature (import_ : String) (found expected : FuncType)
  | notInstantiated (reason : Trap)
  | memoryUnusable
  | exportUnusable (name reason : String)
  deriving Repr

namespace StartFault

def message : StartFault → String
  | .notFunction name =>
    s!"Module imports '{name}', the host only provides functions"
  | .unknownImport name =>
    s!"Module imports '{name}', which the host does not provide"
  | .wrongSignature name found expected =>
    s!"Import '{name}' has signature {found.show}, " ++
      s!"the host provides {expected.show}"
  | .notInstantiated reason =>
    s!"Failed to instantiate keymap module: {reason.message}"
  | .memoryUnusable => "Module memory is not usable: not a memory"
  | .exportUnusable name reason =>
    s!"Export '{name}' is not usable: {reason}"

def details : StartFault → List (Fault.Key × String)
  | .notFunction name | .unknownImport name | .wrongSignature name _ _ =>
    [(.importName, name)]
  | .notInstantiated _ => []
  | .memoryUnusable => [(.exportName, "memory")]
  | .exportUnusable name _ => [(.exportName, name)]

def fault (cause : StartFault) : Fault :=
  ⟨.module, cause.message, cause.details⟩

end StartFault

/-- The functions of a module that the host calls. -/
structure Allocator where
  alloc : Nat
  dealloc : Nat
  /-- Only modules that return texts have it. -/
  deallocText : Option Nat
  deriving DecidableEq, Repr

/-- An instance of a module on a runtime with modules `μ` and stores `ς`,
together with the host it runs on. -/
structure Instance (μ : Type := Module) (ς : Type := Store) where
  module : μ
  /-- The callbacks that the imported functions are bound to. -/
  bindings : List HostFunction
  allocator : Allocator
  entry : Nat
  store : ς
  host : Host
  /-- The most steps that a call into the module may take. -/
  budget : Nat

/-- Enough steps for any call that comes to an end in practice. -/
def defaultBudget : Nat := wordCount 50

def Wasm.Import.qualified (item : Import) : String :=
  item.module ++ "." ++ item.name

section Binding

variable {μ ς : Type} [Runtime μ ς]

/-- The callback that an import is bound to. -/
def bindImport (module : μ) (item : Import) :
    Except StartFault HostFunction :=
  match item.kind with
  | .function type =>
    match HostFunction.resolve? item.name with
    | none => .error (.unknownImport item.qualified)
    | some function =>
      let found := (Runtime.types module)[type]?.getD ⟨[], []⟩
      if found = function.signature then .ok function
      else
        .error (.wrongSignature item.qualified found function.signature)
  | _ => .error (.notFunction item.qualified)

/-- Binds all imports; the first that cannot be bound decides the fault. -/
def bindImports (module : μ) :
    Except StartFault (List HostFunction) :=
  (Runtime.imports module).mapM (bindImport module)

/-- How the host answers calls of imported functions. -/
def hostCalls (bindings : List HostFunction) : HostCalls Host :=
  fun function arguments memory host =>
    match bindings[function]? with
    | some callback => Host.call callback arguments memory host
    | none => (none, host)

/-- The function that is exported under a name with the given type. -/
def exportedFunction (module : μ) (name : String) (type : FuncType) :
    Except StartFault Nat :=
  match Runtime.export? module name with
  | some ⟨_, .function, index⟩ =>
    if Runtime.functionType? module index = some type then .ok index
    else .error (.exportUnusable name "incompatible type")
  | some _ => .error (.exportUnusable name "not a function")
  | none => .error (.exportUnusable name "missing")

/-- A function type of words only. -/
def wordType (parameters results : Nat) : FuncType :=
  ⟨List.replicate parameters .i32, List.replicate results .i32⟩

/-- The allocator and the render function that a contract promises. -/
def findExports (module : μ) (contract : Contract) :
    Except StartFault (Allocator × Nat) := do
  let alloc ←
    exportedFunction module contract.abi.allocExport (wordType 1 1)
  let dealloc ←
    exportedFunction module contract.abi.deallocExport (wordType 2 0)
  match contract.abi with
  | .cString =>
    let deallocText ← exportedFunction module "dealloc_str" (wordType 1 0)
    let entry ← exportedFunction module contract.entry (wordType 1 1)
    return (⟨alloc, dealloc, some deallocText⟩, entry)
  | .bindgen =>
    let entry ← exportedFunction module contract.entry (wordType 4 0)
    return (⟨alloc, dealloc, none⟩, entry)

def exportsMemory (module : μ) : Bool :=
  match Runtime.export? module "memory" with
  | some item => item.kind = .memory
  | none => false

end Binding

namespace Instance

variable {μ ς : Type} [Runtime μ ς]

/-- Instantiates a module on a page. Callbacks reach the memory only after
the start function has run. -/
def start (module : μ) (contract : Contract) (page : Page)
    (budget : Nat) : Except StartFault (Instance μ ς) := do
  let bindings ← bindImports module
  match Runtime.instantiate module (hostCalls bindings) budget
      (Host.new page) with
  | (.error reason, _) => throw (.notInstantiated reason)
  | (.ok store, host) =>
    if !exportsMemory module then
      throw .memoryUnusable
    let (allocator, entry) ← findExports module contract
    return {
      module, bindings, allocator, entry, store, budget
      host := { host with memoryReady := true } }

def invoke (function : Nat) (arguments : List UInt32) :
    StateM (Instance μ ς) Outcome := fun running =>
  let (outcome, store, host) :=
    Runtime.invoke running.module (hostCalls running.bindings) running.budget
      function (arguments.map .i32) running.store running.host
  (outcome, { running with store, host })

def allocatorFault (name : String) (reason : Trap) : Fault :=
  (Fault.module s!"Module trapped in '{name}': {reason.message}").withDetail
    .exportName name

def callAllocator (name : String) (function : Nat)
    (arguments : List UInt32) :
    Guest.Call (Instance μ ς) (List Value) := do
  match ← (invoke function arguments : StateM (Instance μ ς) Outcome) with
  | .done results => return results
  | .trap reason => throw (allocatorFault name reason)

def callAbout (name : String) (function : Nat) (pointer : UInt32)
    (arguments : List UInt32) : Guest.Call (Instance μ ς) Unit := do
  match ← (invoke function arguments : StateM (Instance μ ς) Outcome) with
  | .done _ => return ()
  | .trap reason =>
    throw ((allocatorFault name reason).withDetail .pointer
      (toString pointer))

def noDeallocText (pointer : UInt32) : Fault :=
  ((Fault.contract
    "Module returned an owned string but exports no dealloc_str").withDetail
      .pointer (toString pointer)).withDetail .exportName "dealloc_str"

end Instance

instance {μ ς : Type} [Runtime μ ς] : Guest (Instance μ ς) where
  memory running := Runtime.memory μ running.store
  store pointer bytes := modify fun running =>
    { running with
      store := Runtime.write μ running.store pointer.toNat bytes }
  alloc size := do
    let running ← get
    match ← Instance.callAllocator "alloc" running.allocator.alloc [size] with
    | [.i32 pointer] => return pointer
    | _ => return 0
  dealloc pointer size := do
    let running ← get
    Instance.callAbout "dealloc" running.allocator.dealloc pointer
      [pointer, size]
  deallocText pointer := do
    match (← get).allocator.deallocText with
    | some function =>
      Instance.callAbout "dealloc_str" function pointer [pointer]
    | none => throw (Instance.noDeallocText pointer)

end KeymapViewer
