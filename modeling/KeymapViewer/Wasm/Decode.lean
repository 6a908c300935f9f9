import KeymapViewer.Wasm.Module
import KeymapViewer.Wasm.Section

/-!
Reading the parts of a module from the contents of its sections. This reads a
part of the format only: the instructions that `Instr` has, blocks with one
result at most, and neither element segments (section 9), the number of data
segments (section 12) nor tags (section 13). Everything else is refused, also
where it is valid, so nothing is concluded about all modules from what is read
here: what holds of all modules is stated of a `Runtime`.
-/

namespace KeymapViewer.Wasm

open Text

namespace Decode

def valType : Reader ValType := do
  match (← Reader.byte).toNat with
  | 0x7F => return .i32
  | 0x7E => return .i64
  | 0x7D => return .f32
  | 0x7C => return .f64
  | 0x7B => return .v128
  | 0x70 => return .ref .func
  | 0x6F => return .ref .foreign
  | code => throw (.unknownKind code)

def funcType : Reader FuncType := do
  match (← Reader.byte).toNat with
  | 0x60 =>
    let parameters ← Reader.vec valType
    let results ← Reader.vec valType
    return ⟨parameters, results⟩
  | code => throw (.unknownKind code)

/-- The limits after a flag byte, with numbers of at most so many bits. -/
def limits (bits : Nat) (bounded : Bool) : Reader Limits := do
  let min ← Reader.unsigned bits
  if bounded then
    return ⟨min, some (← Reader.unsigned bits)⟩
  else
    return ⟨min, none⟩

def tableType : Reader TableType := do
  let element := (← Reader.byte).toNat
  if element ≠ 0x70 then
    throw (.unknownKind element)
  match (← Reader.byte).toNat with
  | 0 => return ⟨← limits 32 false, false⟩
  | 1 => return ⟨← limits 32 true, false⟩
  | 4 => return ⟨← limits 64 false, true⟩
  | 5 => return ⟨← limits 64 true, true⟩
  | code => throw (.unknownKind code)

/-- The type of a memory. One that is shared has to have a greatest size; all
else is the same for it. -/
def memoryType : Reader MemoryType := do
  match (← Reader.byte).toNat with
  | 0 => return ⟨← limits 32 false, false⟩
  | 1 | 3 => return ⟨← limits 32 true, false⟩
  | 4 => return ⟨← limits 64 false, true⟩
  | 5 | 7 => return ⟨← limits 64 true, true⟩
  | code => throw (.unknownKind code)

def globalType : Reader GlobalType := do
  let type ← valType
  match (← Reader.byte).toNat with
  | 0 => return ⟨type, false⟩
  | 1 => return ⟨type, true⟩
  | code => throw (.unknownKind code)

def importItem : Reader Import := do
  let module ← Reader.name
  let name ← Reader.name
  match (← Reader.byte).toNat with
  | 0 => return ⟨module, name, .function (← Reader.u32)⟩
  | 1 => return ⟨module, name, .table (← tableType)⟩
  | 2 => return ⟨module, name, .memory (← memoryType)⟩
  | 3 => return ⟨module, name, .global (← globalType)⟩
  | code => throw (.unknownKind code)

def exportItem : Reader Export := do
  let name ← Reader.name
  let kind ←
    match (← Reader.byte).toNat with
    | 0 => pure ExportKind.function
    | 1 => pure .table
    | 2 => pure .memory
    | 3 => pure .global
    | code => throw (.unknownKind code)
  return ⟨name, kind, ← Reader.u32⟩

def littleEndian : Bytes → Nat
  | [] => 0
  | byte :: rest => byte.toNat + 256 * littleEndian rest

/-- Instructions up to the end of a constant expression; `stack` holds the
expressions before them that are not used yet, the last one first. -/
def constInstrs : Nat → List ConstExpr → Reader ConstExpr
  | 0, _ => throw .truncated
  | fuel + 1, stack => do
    let push (expr : ConstExpr) := constInstrs fuel (expr :: stack)
    let combine (type : ValType) (op : BinaryOp) :=
      match stack with
      | second :: first :: rest =>
        constInstrs fuel (.arithmetic type op first second :: rest)
      | _ => throw (.invalid "operands of a constant expression")
    match (← Reader.byte).toNat with
    | 0x0B =>
      match stack with
      | [expr] => return expr
      | _ => throw (.invalid "values of a constant expression")
    | 0x23 => push (.globalGet (← Reader.u32))
    | 0x41 => push (.const (.i32 (UInt32.ofInt (← Reader.signed 32))))
    | 0x42 => push (.const (.i64 (UInt64.ofInt (← Reader.signed 64))))
    | 0x43 =>
      push (.const (.f32 (littleEndian (← Reader.bytes 4)).toUInt32))
    | 0x44 =>
      push (.const (.f64 (littleEndian (← Reader.bytes 8)).toUInt64))
    | 0x6A => combine .i32 .add
    | 0x6B => combine .i32 .sub
    | 0x6C => combine .i32 .mul
    | 0x7C => combine .i64 .add
    | 0x7D => combine .i64 .sub
    | 0x7E => combine .i64 .mul
    | code => throw (.unknownOpcode code)

def constExpr : Reader ConstExpr := do
  constInstrs (← get).length []

def globalItem : Reader Global := do
  let type ← globalType
  return ⟨type, ← constExpr⟩

/-! ## Instructions -/

def blockType : Reader (Option ValType) := do
  match ← get with
  | 0x40 :: rest =>
    set rest
    return none
  | _ => return some (← valType)

/-- The bit of an alignment that says that a memory is named after it. -/
def memoryMark : Nat := 64

def memArg : Reader MemArg := do
  let flags ← Reader.u32
  if flags < memoryMark then
    return ⟨0, flags, ← Reader.u64⟩
  else
    let memory ← Reader.u32
    return ⟨memory, flags - memoryMark, ← Reader.u64⟩

/-- An instruction without a body, by its opcode. -/
def plain (code : Nat) : Reader Instr := do
  match code with
  | 0x00 => return .unreachable
  | 0x01 => return .nop
  | 0x0C => return .br (← Reader.u32)
  | 0x0D => return .brIf (← Reader.u32)
  | 0x0F => return .ret
  | 0x10 => return .call (← Reader.u32)
  | 0x1A => return .drop
  | 0x20 => return .localGet (← Reader.u32)
  | 0x21 => return .localSet (← Reader.u32)
  | 0x22 => return .localTee (← Reader.u32)
  | 0x23 => return .globalGet (← Reader.u32)
  | 0x24 => return .globalSet (← Reader.u32)
  | 0x28 => return .load .word (← memArg)
  | 0x2D => return .load .byte (← memArg)
  | 0x36 => return .store .word (← memArg)
  | 0x3A => return .store .byte (← memArg)
  | 0x3F => return .memorySize (← Reader.u32)
  | 0x40 => return .memoryGrow (← Reader.u32)
  | 0x41 => return .i32Const (UInt32.ofInt (← Reader.signed 32))
  | 0x45 => return .i32Eqz
  | 0x46 => return .binary .eq
  | 0x4B => return .binary .gtU
  | 0x6A => return .binary .add
  | 0x6B => return .binary .sub
  | 0x6C => return .binary .mul
  | 0x6D => return .binary .divS
  | 0x71 => return .binary .and
  | 0x74 => return .binary .shl
  | 0x76 => return .binary .shrU
  | _ => throw (.unknownOpcode code)

/-- What ends a sequence of instructions. -/
inductive Ending where
  | done
  | otherwise
  deriving DecidableEq, Repr

def closed : List Instr × Ending → Reader (List Instr)
  | (items, .done) => return items
  | (_, .otherwise) => throw (.unknownOpcode 0x05)

/-- Instructions up to the end of their block, and what ends it. -/
def instrs : Nat → Reader (List Instr × Ending)
  | 0 => throw .truncated
  | fuel + 1 => do
    match (← Reader.byte).toNat with
    | 0x0B => return ([], .done)
    | 0x05 => return ([], .otherwise)
    | code =>
      let first ←
        match code with
        | 0x02 =>
          let result ← blockType
          pure (.block result (← closed (← instrs fuel)))
        | 0x03 =>
          let result ← blockType
          pure (.loop result (← closed (← instrs fuel)))
        | 0x04 =>
          let result ← blockType
          let (yes, ending) ← instrs fuel
          match ending with
          | .done => pure (.ifElse result yes [])
          | .otherwise =>
            pure (.ifElse result yes (← closed (← instrs fuel)))
        | _ => plain code
      let (rest, ending) ← instrs fuel
      return (first :: rest, ending)

def localRun : Reader (Nat × ValType) := do
  let count ← Reader.u32
  return (count, ← valType)

/-- A function body: its locals, and instructions to the end of the bytes. -/
def code (input : Bytes) : Except Malformed Code :=
  Reader.whole (do
    let locals ← Reader.vec localRun
    let (body, ending) ← instrs (input.length + 1)
    match ending with
    | .done => return ⟨locals, body⟩
    | .otherwise => throw (.unknownOpcode 0x05)) input

/-- The place of a data segment, which has none, or goes to the first memory
or to a memory that is named. -/
def dataPlace : Reader (Option DataPlace) := do
  match ← Reader.u32 with
  | 0 => return some ⟨0, ← constExpr⟩
  | 1 => return none
  | 2 =>
    let memory ← Reader.u32
    return some ⟨memory, ← constExpr⟩
  | flags => throw (.unknownKind flags)

def dataSegment : Reader DataSegment := do
  let place ← dataPlace
  return ⟨place, ← Reader.bytes (← Reader.u32)⟩

def addSection (module : Module) (part : Section) :
    Except Malformed Module := do
  let items {α : Type} (item : Reader α) : Except Malformed (List α) :=
    Reader.whole (Reader.vec item) part.content
  match part.id with
  | 0 => return module
  | 1 => return { module with types := ← items funcType }
  | 2 => return { module with imports := ← items importItem }
  | 3 => return { module with functions := ← items Reader.u32 }
  | 4 => return { module with tables := ← items tableType }
  | 5 => return { module with memories := ← items memoryType }
  | 6 => return { module with globals := ← items globalItem }
  | 7 => return { module with exports := ← items exportItem }
  | 8 =>
    return { module with start := ← Reader.whole Reader.u32 part.content }
  | 10 =>
    let bodies ← Reader.whole Section.bodies part.content
    return { module with code := ← bodies.mapM code }
  | 11 => return { module with data := ← items dataSegment }
  | id => throw (.unknownKind id)

end Decode

/-- The module that the sections of a binary describe. -/
def Module.ofSections (sections : List Section) : Except Malformed Module :=
  sections.foldlM Decode.addSection .empty

end KeymapViewer.Wasm
