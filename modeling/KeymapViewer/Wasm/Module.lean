import KeymapViewer.Text.Utf8
import KeymapViewer.Wasm.Types

/-!
WebAssembly modules: instructions as a tree, and the parts of a module in the
order of its sections. Of the instructions only those are here that the machine
carries out: control, calls, locals, globals, one memory, and a few operations
on words. Element segments and the sections that come with later proposals are
left out.
-/

namespace KeymapViewer.Wasm

open Text

inductive BinaryOp where
  | eq
  | gtU
  | add
  | sub
  | mul
  | divS
  | and
  | shl
  | shrU
  deriving DecidableEq, Repr

inductive Width where
  | byte
  | word
  deriving DecidableEq, Repr

def Width.bytes : Width → Nat
  | .byte => 1
  | .word => 4

/-- The exponent of the greatest alignment that can be claimed. -/
def Width.alignment : Width → Nat
  | .byte => 0
  | .word => 2

/-- Which memory an access goes to, and where. -/
structure MemArg where
  memory : Nat
  /-- The exponent of the alignment that is claimed. -/
  align : Nat
  offset : Nat
  deriving DecidableEq, Repr

inductive Instr where
  | unreachable
  | nop
  | block (result : Option ValType) (body : List Instr)
  | loop (result : Option ValType) (body : List Instr)
  | ifElse (result : Option ValType) (yes no : List Instr)
  | br (label : Nat)
  | brIf (label : Nat)
  | ret
  | call (function : Nat)
  | drop
  | localGet (index : Nat)
  | localSet (index : Nat)
  | localTee (index : Nat)
  | globalGet (index : Nat)
  | globalSet (index : Nat)
  | load (width : Width) (place : MemArg)
  | store (width : Width) (place : MemArg)
  | memorySize (memory : Nat)
  | memoryGrow (memory : Nat)
  | i32Const (word : UInt32)
  | i32Eqz
  | binary (op : BinaryOp)
  deriving Repr

/-- An expression whose value is known when the module is instantiated. -/
inductive ConstExpr where
  | const (value : Value)
  | globalGet (index : Nat)
  /-- A sum, a difference or a product of integers of one type. -/
  | arithmetic (type : ValType) (op : BinaryOp) (first second : ConstExpr)
  deriving DecidableEq, Repr

inductive ImportKind where
  | function (type : Nat)
  | table (type : TableType)
  | memory (type : MemoryType)
  | global (type : GlobalType)
  /-- An exception that can be thrown, with the type of what it carries. -/
  | tag (type : Nat)
  deriving DecidableEq, Repr

structure Import where
  module : String
  name : String
  kind : ImportKind
  deriving DecidableEq, Repr

inductive ExportKind where
  | function
  | table
  | memory
  | global
  | tag
  deriving DecidableEq, Repr

structure Export where
  name : String
  kind : ExportKind
  index : Nat
  deriving DecidableEq, Repr

structure Code where
  locals : List (Nat × ValType)
  body : List Instr
  deriving Repr

structure Global where
  type : GlobalType
  value : ConstExpr
  deriving DecidableEq, Repr

/-- Where in which memory a data segment goes. -/
structure DataPlace where
  memory : Nat
  offset : ConstExpr
  deriving DecidableEq, Repr

/-- Bytes that are put into a memory when the module starts, if they have a
place. -/
structure DataSegment where
  place : Option DataPlace
  bytes : Bytes
  deriving DecidableEq, Repr

structure Module where
  types : List FuncType
  imports : List Import
  /-- The type of each function of the module's own. -/
  functions : List Nat
  tables : List TableType
  memories : List MemoryType
  globals : List Global
  exports : List Export
  start : Option Nat
  code : List Code
  data : List DataSegment
  deriving Repr

namespace Module

def empty : Module := ⟨[], [], [], [], [], [], [], none, [], []⟩

def importedFunctions (module : Module) : List Nat :=
  module.imports.filterMap fun item =>
    match item.kind with
    | .function type => some type
    | _ => none

/-- The type index of every function, imported ones first. -/
def functionTypes (module : Module) : List Nat :=
  module.importedFunctions ++ module.functions

def functionType? (module : Module) (function : Nat) : Option FuncType :=
  match module.functionTypes[function]? with
  | some type => module.types[type]?
  | none => none

def allTables (module : Module) : List TableType :=
  (module.imports.filterMap fun item =>
    match item.kind with
    | .table type => some type
    | _ => none) ++ module.tables

def allMemories (module : Module) : List MemoryType :=
  (module.imports.filterMap fun item =>
    match item.kind with
    | .memory type => some type
    | _ => none) ++ module.memories

def importedGlobals (module : Module) : List GlobalType :=
  module.imports.filterMap fun item =>
    match item.kind with
    | .global type => some type
    | _ => none

def allGlobals (module : Module) : List GlobalType :=
  module.importedGlobals ++ module.globals.map (·.type)

/-- The types of the imported tags. There are no others. -/
def importedTags (module : Module) : List Nat :=
  module.imports.filterMap fun item =>
    match item.kind with
    | .tag type => some type
    | _ => none

/-- The constant expressions of globals and data segments. -/
def constants (module : Module) : List ConstExpr :=
  module.globals.map (·.value) ++
    module.data.filterMap fun segment => segment.place.map (·.offset)

/-- The body of a function of the module's own, by its index among all. -/
def code? (module : Module) (function : Nat) : Option Code :=
  module.code[function - module.importedFunctions.length]?

end Module

end KeymapViewer.Wasm
