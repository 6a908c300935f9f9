import KeymapViewer.Wasm.Machine
import KeymapViewer.Wasm.Validation

/-!
Runtimes: what the host needs of anything that checks, compiles and runs
WebAssembly modules. The machine is a runtime, for a part of the format; what
is said of all keymap modules is said of an arbitrary one.
-/

namespace KeymapViewer.Wasm

open Text

/-- A runtime whose compiled modules are of type `μ`. A running module is
known by its store, of type `ς`. Calls of imported functions go to a host,
which is shown the memory of the module and whose state the runtime passes
on. Starts and calls have a result: a runtime may bound their work by a budget,
and of those that never end nothing is said. -/
class Runtime (μ : Type) (ς : outParam Type) where
  /-- Checks a binary, and tells what is wrong with it. -/
  validate (μ) (binary : Bytes) : Except String Unit
  /-- The custom sections of a binary, which need not be valid beyond them. -/
  customSections (μ) (binary : Bytes) : Except String (List CustomSection)
  compile (binary : Bytes) : Except String μ
  types (module : μ) : List FuncType
  imports (module : μ) : List Import
  exports (module : μ) : List Export
  functionType? (module : μ) (function : Nat) : Option FuncType
  memory (μ) (store : ς) : Memory
  /-- Puts bytes into memory; their place has been checked before. -/
  write (μ) (store : ς) (place : Nat) (bytes : Bytes) : ς
  /-- The store of a new instance, after its start function has run. -/
  instantiate {η : Type} (module : μ) (calls : HostCalls η) (budget : Nat)
    (host : η) : Except Trap ς × η
  /-- Calls a function from outside. -/
  invoke {η : Type} (module : μ) (calls : HostCalls η) (budget function : Nat)
    (arguments : List Value) (store : ς) (host : η) : Outcome × ς × η

namespace Runtime

variable {μ ς : Type} [Runtime μ ς]

def export? (module : μ) (name : String) : Option Export :=
  (exports module).find? (·.name == name)

end Runtime

instance : Runtime Module Store where
  validate binary :=
    ((Wasm.validate binary).map fun _ => ()).mapError Malformed.message
  customSections binary :=
    ((Binary.read binary).map (·.customSections)).mapError Malformed.message
  compile := Wasm.compile
  types := Module.types
  imports := Module.imports
  exports := Module.exports
  functionType? := Module.functionType?
  memory := Store.memory
  write store place bytes :=
    { store with memory := store.memory.write place bytes }
  instantiate := Module.instantiate
  invoke := Wasm.invoke

end KeymapViewer.Wasm
