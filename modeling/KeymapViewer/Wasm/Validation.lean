import KeymapViewer.Wasm.Decode

/-!
Validity of modules: every index is in range, every constant and every body
has the type it is declared with, and no two exports share a name. A module
that uses more of the format than is read here counts as invalid.
-/

namespace KeymapViewer.Wasm

/-! ## Bodies -/

/-- What the instructions of a body can refer to. -/
structure Scope where
  module : Module
  locals : List ValType
  results : List ValType

/-- The types of the operands, the last one first. After an instruction that
does not go on, any further operand may be taken. -/
structure Operands where
  known : List ValType
  dead : Bool
  deriving DecidableEq, Repr

namespace Operands

def empty : Operands := ⟨[], false⟩

/-- The operands after an instruction that does not go on. -/
def afterJump : Operands := ⟨[], true⟩

def push (operands : Operands) (type : ValType) : Operands :=
  { operands with known := type :: operands.known }

def pushAll (operands : Operands) (types : List ValType) : Operands :=
  types.foldl push operands

def pop? (operands : Operands) (type : ValType) : Option Operands :=
  match operands.known with
  | top :: rest =>
    if top = type then some { operands with known := rest } else none
  | [] => if operands.dead then some operands else none

def popAny? (operands : Operands) : Option Operands :=
  match operands.known with
  | _ :: rest => some { operands with known := rest }
  | [] => if operands.dead then some operands else none

/-- Takes operands of the given types, of which the last is on top. -/
def popAll? (operands : Operands) (types : List ValType) : Option Operands :=
  types.reverse.foldlM pop? operands

/-- Whether the operands are exactly of the given types. -/
def areExactly (operands : Operands) (types : List ValType) : Bool :=
  match operands.popAll? types with
  | some rest => rest.known.isEmpty
  | none => false

end Operands

def check? (condition : Bool) : Option Unit :=
  if condition then some () else none

namespace Scope

/-- The type of the addresses of a memory. -/
def addressType? (scope : Scope) (memory : Nat) : Option ValType :=
  scope.module.allMemories[memory]?.map MemoryType.addressType

/-- The type of the address that an access takes. -/
def accessType? (scope : Scope) (width : Width) (place : MemArg) :
    Option ValType := do
  let type ← scope.addressType? place.memory
  check? (place.align ≤ width.alignment)
  check? (type = .i64 || place.offset < wordCount 32)
  return type

/-- The operands after an instruction without a body; `labels` are the types
that a branch to each enclosing block carries, the innermost first. -/
def plain? (scope : Scope) (labels : List (List ValType))
    (operands : Operands) : Instr → Option Operands
  | .unreachable => some .afterJump
  | .nop => some operands
  | .br label => do
    let _ ← operands.popAll? (← labels[label]?)
    return .afterJump
  | .brIf label => do
    let carried ← labels[label]?
    let rest ← (← operands.pop? .i32).popAll? carried
    return rest.pushAll carried
  | .ret => do
    let _ ← operands.popAll? scope.results
    return .afterJump
  | .call function => do
    let type ← scope.module.functionType? function
    return (← operands.popAll? type.parameters).pushAll type.results
  | .drop => operands.popAny?
  | .localGet index => return operands.push (← scope.locals[index]?)
  | .localSet index => do operands.pop? (← scope.locals[index]?)
  | .localTee index => do
    let type ← scope.locals[index]?
    return (← operands.pop? type).push type
  | .globalGet index =>
    return operands.push (← scope.module.allGlobals[index]?).type
  | .globalSet index => do
    let global ← scope.module.allGlobals[index]?
    check? global.mutable
    operands.pop? global.type
  | .load width place => do
    return (← operands.pop? (← scope.accessType? width place)).push .i32
  | .store width place => do
    (← operands.pop? .i32).pop? (← scope.accessType? width place)
  | .memorySize memory => return operands.push (← scope.addressType? memory)
  | .memoryGrow memory => do
    let address ← scope.addressType? memory
    return (← operands.pop? address).push address
  | .i32Const _ => some (operands.push .i32)
  | .i32Eqz => return (← operands.pop? .i32).push .i32
  | .binary _ =>
    return (← (← operands.pop? .i32).pop? .i32).push .i32
  | .block _ _ | .loop _ _ | .ifElse _ _ _ => none

/-- Whether a body, begun without operands, has left exactly its results. -/
def leaves (after : Option Operands) (results : List ValType) : Bool :=
  match after with
  | some operands => operands.areExactly results
  | none => false

mutual

def instr? (scope : Scope) (labels : List (List ValType))
    (operands : Operands) : Instr → Option Operands
  | .block result body => do
    let results := result.toList
    check? (leaves (scope.instrs? (results :: labels) .empty body) results)
    return operands.pushAll results
  | .loop result body => do
    let results := result.toList
    check? (leaves (scope.instrs? ([] :: labels) .empty body) results)
    return operands.pushAll results
  | .ifElse result yes no => do
    let results := result.toList
    let rest ← operands.pop? .i32
    check? (leaves (scope.instrs? (results :: labels) .empty yes) results)
    check? (leaves (scope.instrs? (results :: labels) .empty no) results)
    return rest.pushAll results
  | other => scope.plain? labels operands other

def instrs? (scope : Scope) (labels : List (List ValType))
    (operands : Operands) : List Instr → Option Operands
  | [] => some operands
  | first :: rest =>
    match scope.instr? labels operands first with
    | some after => scope.instrs? labels after rest
    | none => none

end

/-- Whether a body, begun without operands, leaves exactly its results. -/
def yields (scope : Scope) (labels : List (List ValType))
    (body : List Instr) (results : List ValType) : Bool :=
  leaves (scope.instrs? labels .empty body) results

end Scope

/-! ## Modules -/

namespace Module

def maxLocals : Nat := 50000

def localCount (code : Code) : Nat :=
  code.locals.foldl (fun count (run, _) => count + run) 0

def expandLocals (runs : List (Nat × ValType)) : List ValType :=
  runs.flatMap fun (count, type) => List.replicate count type

def limitsOk (limits : Limits) (bound : Nat) : Bool :=
  limits.min ≤ bound &&
    match limits.max with
    | some max => limits.min ≤ max && max ≤ bound
    | none => true

/-- The most parameters, and the most results, of a function. -/
def arityLimit : Nat := 1000

def typeOk (type : FuncType) : Bool :=
  type.parameters.length ≤ arityLimit && type.results.length ≤ arityLimit

/-- The number of entries of a table is a number as wide as its places. -/
def tableOk (table : TableType) : Bool :=
  limitsOk table.limits (wordCount (if table.wide then 64 else 32) - 1)

def instanceLimit : Nat := 100

def memoryOk (memory : MemoryType) : Bool :=
  limitsOk memory.limits (if memory.wide then wordCount 48 else maxPages)

def importOk (module : Module) (item : Import) : Bool :=
  match item.kind with
  | .function type => type < module.types.length
  | .table type => tableOk type
  | .memory type => memoryOk type
  | .global _ => true
  | .tag type =>
    match module.types[type]? with
    | some type => type.results.isEmpty
    | none => false

/-- The type of a constant expression, which may use those of the given
globals that never change. -/
def constType? (globals : List GlobalType) : ConstExpr → Option ValType
  | .const value => some value.type
  | .globalGet index =>
    match globals[index]? with
    | some global => if global.mutable then none else some global.type
    | none => none
  | .arithmetic type _ first second =>
    if constType? globals first = some type &&
        constType? globals second = some type then
      some type
    else
      none

/-- Whether globals begin with values of their types, on top of those
before them. -/
def globalsOk (earlier : List GlobalType) : List Global → Bool
  | [] => true
  | global :: rest =>
    constType? earlier global.value == some global.type.type &&
      globalsOk (earlier ++ [global.type]) rest

def exportOk (module : Module) (item : Export) : Bool :=
  match item.kind with
  | .function => item.index < module.functionTypes.length
  | .table => item.index < module.allTables.length
  | .memory => item.index < module.allMemories.length
  | .global => item.index < module.allGlobals.length
  | .tag => item.index < module.importedTags.length

def codeOk (module : Module) (type : Nat) (code : Code) : Bool :=
  match module.types[type]? with
  | none => false
  | some type =>
    localCount code + type.parameters.length ≤ maxLocals &&
      (Scope.mk module (type.parameters ++ expandLocals code.locals)
        type.results).yields [type.results] code.body type.results

def startOk (module : Module) : Bool :=
  match module.start with
  | none => true
  | some function =>
    module.functionType? function == some ⟨[], []⟩

def dataOk (module : Module) (segment : DataSegment) : Bool :=
  match segment.place with
  | none => true
  | some place =>
    match module.allMemories[place.memory]? with
    | some memory =>
      constType? module.allGlobals place.offset == some memory.addressType
    | none => false

/-- What a part of the given function type adds to the size of a module's
type; `none` stands for parts that are no functions. -/
def typeSize (type? : Option FuncType) : Nat :=
  match type? with
  | some type => 1 + type.parameters.length + type.results.length
  | none => 1

/-- The sizes that imports and exports add up to stay below this bound. -/
def typeSizeLimit : Nat := 1000000

def importSize (module : Module) (item : Import) : Nat :=
  match item.kind with
  | .function type => typeSize module.types[type]?
  | _ => typeSize none

def exportSize (module : Module) (item : Export) : Nat :=
  match item.kind with
  | .function => typeSize (module.functionType? item.index)
  | _ => typeSize none

def totalSize (module : Module) : Nat :=
  (module.imports.map module.importSize ++
    module.exports.map module.exportSize).foldl (· + ·) 1

/-- Checks a module; the error names the first part that is not valid. -/
def check (module : Module) : Except Malformed Unit := do
  let require (condition : Bool) (part : String) : Except Malformed Unit :=
    if condition then .ok () else .error (.invalid part)
  require (module.types.all typeOk) "size of a function type"
  require (module.imports.all module.importOk) "unknown type in an import"
  require (module.functions.all (· < module.types.length))
    "unknown type of a function"
  require (module.tables.all tableOk) "table size"
  require (module.memories.all memoryOk) "memory size"
  require (module.allTables.length ≤ instanceLimit) "number of tables"
  require (module.allMemories.length ≤ instanceLimit) "number of memories"
  require (globalsOk module.importedGlobals module.globals)
    "type mismatch in a global"
  require (module.exports.all module.exportOk) "unknown export"
  require ((module.exports.map (·.name)).eraseDups.length =
    module.exports.length) "duplicate export name"
  require (module.totalSize < typeSizeLimit) "size of the module's type"
  require module.startOk "start function"
  require (module.functions.length = module.code.length)
    "number of bodies"
  require ((module.functions.zip module.code).all fun (type, code) =>
    module.codeOk type code) "type mismatch in a body"
  require (module.data.all module.dataOk) "data segment"

end Module

/-- A binary that has been found valid: a module, or a component, of which
nothing more is known. -/
inductive Validated where
  | component
  | module (module : Module)
  deriving Repr

def validate (input : Text.Bytes) : Except Malformed Validated := do
  let binary ← Binary.read input
  match binary.layer with
  | .component => return .component
  | .module =>
    let module ← Module.ofSections binary.sections
    module.check
    return .module module

/-- Whether a constant expression is a constant or one of so many imported
globals. -/
def isPlainConstant (importedGlobals : Nat) : ConstExpr → Bool
  | .const _ => true
  | .globalGet index => index < importedGlobals
  | .arithmetic .. => false

/-- The module of a valid binary, if it can be compiled: components, 64-bit
memories and tables, second memories and constants that have to be computed
cannot. -/
def compileValidated : Validated → Except String Module
  | .component => .error "component"
  | .module module =>
    if module.allMemories.any (·.wide) || module.allTables.any (·.wide) then
      .error "64-bit memory or table"
    else if 1 < module.allMemories.length then
      .error "multiple memories"
    else if !module.constants.all
        (isPlainConstant module.importedGlobals.length) then
      .error "computed constant"
    else
      .ok module

def compile (input : Text.Bytes) : Except String Module := do
  compileValidated (← (validate input).mapError Malformed.message)

end KeymapViewer.Wasm
