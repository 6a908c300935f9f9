import KeymapViewer.Fault
import KeymapViewer.HostFunction
import KeymapViewer.Text.Json
import KeymapViewer.Wasm.Runtime

/-!
The contract of a keymap module: what it exports and imports, and how its
render function is called.
-/

namespace KeymapViewer

open Wasm

/-- The convention by which a render function is called. -/
inductive EntryAbi where
  /-- The function takes and returns texts that end with a zero byte. -/
  | cString
  /-- The function takes a text and the id of an element, and fills the
  element itself. -/
  | bindgen
  deriving DecidableEq, Repr

namespace EntryAbi

def name : EntryAbi → String
  | .cString => "CString"
  | .bindgen => "Bindgen"

def defaultEntry : EntryAbi → String
  | .cString => "svg"
  | .bindgen => "make_svg"

def allocExport : EntryAbi → String
  | .cString => "alloc"
  | .bindgen => "__wbindgen_malloc"

def deallocExport : EntryAbi → String
  | .cString => "dealloc"
  | .bindgen => "__wbindgen_free"

def requiredExports : EntryAbi → List String
  | .cString => ["memory", "alloc", "dealloc", "dealloc_str"]
  | .bindgen => ["memory", "__wbindgen_malloc", "__wbindgen_free"]

/-- The convention of a module with the given exports. -/
def detect (exports : List String) : EntryAbi :=
  if exports.contains EntryAbi.bindgen.allocExport then .bindgen
  else .cString

end EntryAbi

def Wasm.ExportKind.name : Wasm.ExportKind → String
  | .function => "function"
  | .table => "table"
  | .memory => "memory"
  | .global => "global"
  | .tag => "other"

def Wasm.ImportKind.name : Wasm.ImportKind → String
  | .function _ => "function"
  | .table _ => "table"
  | .memory _ => "memory"
  | .global _ => "global"
  | .tag _ => "other"

structure Contract where
  abi : EntryAbi
  entry : String
  exports : List Export
  imports : List Import
  customSections : List CustomSection
  deriving Repr

inductive ModuleFault where
  | malformed (reason : String)
  | notCompiled (reason : String)
  | missingExports (names : List String)
  | missingEntry (name : String)
  deriving Repr

namespace ModuleFault

def message : ModuleFault → String
  | .malformed reason => "Invalid WebAssembly module: " ++ reason
  | .notCompiled reason => "Failed to compile keymap module: " ++ reason
  | .missingExports names =>
    "Module is missing required exports: " ++ ", ".intercalate names
  | .missingEntry name =>
    s!"Module does not export the render function '{name}'"

def fault (cause : ModuleFault) : Fault :=
  let plain := Fault.module cause.message
  match cause with
  | .malformed _ | .notCompiled _ => plain
  | .missingExports names =>
    plain.withDetail .exportName (", ".intercalate names)
  | .missingEntry name => plain.withDetail .exportName name

end ModuleFault

namespace Contract

section Reading

variable {ς : Type}

/-- Checks a binary before it is compiled. Here and below `μ` is the type of
the modules of the runtime. -/
def validate (binary : Text.Bytes) (μ : Type := Module) [Runtime μ ς] :
    Except ModuleFault Unit :=
  (Runtime.validate μ binary).mapError .malformed

/-- The custom sections of a binary, which need not be valid beyond them. -/
def readCustomSections (binary : Text.Bytes) (μ : Type := Module)
    [Runtime μ ς] : Except ModuleFault (List CustomSection) :=
  (Runtime.customSections μ binary).mapError .malformed

def compile (binary : Text.Bytes) (μ : Type := Module) [Runtime μ ς] :
    Except ModuleFault μ :=
  (Runtime.compile binary : Except String μ).mapError .notCompiled

/-- The contract of a module. The name of the render function can be given in
place of the usual one. -/
def read {μ : Type} [Runtime μ ς] (module : μ) (binary : Text.Bytes)
    (entryName : Option String) : Except ModuleFault Contract := do
  let exports := Runtime.exports module
  let names := exports.map (·.name)
  let abi := EntryAbi.detect names
  let missing := abi.requiredExports.filter (!names.contains ·)
  if !missing.isEmpty then
    throw (.missingExports missing)
  let entry := entryName.getD abi.defaultEntry
  if !(exports.any fun item =>
      item.name == entry && item.kind = .function) then
    throw (.missingEntry entry)
  let customSections ← readCustomSections binary μ
  return ⟨abi, entry, exports, Runtime.imports module, customSections⟩

/-- Checks and compiles a binary only to tell its contract. -/
def inspect (binary : Text.Bytes) (entryName : Option String)
    (μ : Type := Module) [Runtime μ ς] : Except ModuleFault Contract := do
  validate binary μ
  let module ← compile binary μ
  read module binary entryName

end Reading

/-! ## As JSON -/

def exportJson (item : Export) : JsonValue :=
  .object [("name", .string item.name), ("kind", .string item.kind.name)]

def importJson (item : Import) : JsonValue :=
  let host := HostFunction.resolve? item.name
  .object
    [("module", .string item.module), ("name", .string item.name),
      ("kind", .string item.kind.name),
      ("host_function", .ofOption (.string ·.name) host),
      ("description", .ofOption (.string ·.description) host)]

def customSectionJson (part : CustomSection) : JsonValue :=
  .object
    [("name", .string part.name), ("size", .number part.content.length)]

def toJson (contract : Contract) : JsonValue :=
  .object
    [("abi", .string contract.abi.name),
      ("entry", .string contract.entry),
      ("exports", .array (contract.exports.map exportJson)),
      ("imports", .array (contract.imports.map importJson)),
      ("custom_sections",
        .array (contract.customSections.map customSectionJson))]

def report (contract : Contract) : String := contract.toJson.pretty ""

end Contract

end KeymapViewer
