import KeymapViewer.Wasm.Module

/-!
Writing modules in the binary format. Every number takes as few bytes as it
can, and a section is left out when it has no items.
-/

namespace KeymapViewer.Wasm

open Text

namespace Encode

/-- An unsigned number, seven bits in a byte, the lowest first. -/
def unsigned (n : Nat) : Bytes :=
  if n < 128 then [n.toUInt8]
  else (n % 128 + 128).toUInt8 :: unsigned (n / 128)

/-- A signed number in two's complement, seven bits in a byte. -/
def signed (n : Int) : Bytes :=
  if _small : -64 ≤ n ∧ n < 64 then [(n % 128).toNat.toUInt8]
  else ((n % 128).toNat + 128).toUInt8 :: signed (n / 128)
termination_by n.natAbs
decreasing_by omega

def vec (item : α → Bytes) (items : List α) : Bytes :=
  unsigned items.length ++ items.flatMap item

/-- Bytes with their number in front. -/
def sized (bytes : Bytes) : Bytes :=
  unsigned bytes.length ++ bytes

def name (text : String) : Bytes := sized (Utf8.encode text)

def valType : ValType → Bytes
  | .i32 => [0x7F]
  | .i64 => [0x7E]
  | .f32 => [0x7D]
  | .f64 => [0x7C]
  | .v128 => [0x7B]
  | .ref .func => [0x70]
  | .ref .foreign => [0x6F]
  | .ref .exception => [0x69]

def funcType (type : FuncType) : Bytes :=
  0x60 :: vec valType type.parameters ++ vec valType type.results

def limits (limits : Limits) (base : UInt8) : Bytes :=
  match limits.max with
  | none => base :: unsigned limits.min
  | some max => (base + 1) :: unsigned limits.min ++ unsigned max

def tableType (table : TableType) : Bytes :=
  0x70 :: limits table.limits (if table.wide then 4 else 0)

def memoryType (memory : MemoryType) : Bytes :=
  limits memory.limits (if memory.wide then 4 else 0)

def globalType (global : GlobalType) : Bytes :=
  valType global.type ++ [if global.mutable then 1 else 0]

def importItem (item : Import) : Bytes :=
  name item.module ++ name item.name ++
    match item.kind with
    | .function type => 0 :: unsigned type
    | .table type => 1 :: tableType type
    | .memory type => 2 :: memoryType type
    | .global type => 3 :: globalType type
    | .tag type => 4 :: 0 :: unsigned type

def exportKind : ExportKind → UInt8
  | .function => 0
  | .table => 1
  | .memory => 2
  | .global => 3
  | .tag => 4

def exportItem (item : Export) : Bytes :=
  name item.name ++ exportKind item.kind :: unsigned item.index

/-- So many bytes of a number, the lowest first. -/
def littleEndian : Nat → Nat → Bytes
  | 0, _ => []
  | count + 1, n => (n % 256).toUInt8 :: littleEndian count (n / 256)

def blockType : Option ValType → Bytes
  | none => [0x40]
  | some type => valType type

/-- A memory other than the first is marked by a bit of the alignment. -/
def memArg (place : MemArg) : Bytes :=
  if place.memory = 0 then
    unsigned place.align ++ unsigned place.offset
  else
    unsigned (place.align + 64) ++ unsigned place.memory ++
      unsigned place.offset

def binaryOp : BinaryOp → UInt8
  | .eq => 0x46
  | .gtU => 0x4B
  | .add => 0x6A
  | .sub => 0x6B
  | .mul => 0x6C
  | .divS => 0x6D
  | .and => 0x71
  | .shl => 0x74
  | .shrU => 0x76

/-- The code of an operation on the integers of a type. -/
def arithmeticOp (type : ValType) (op : BinaryOp) : UInt8 :=
  if type = .i64 then binaryOp op + 0x12 else binaryOp op

def constInstrs : ConstExpr → Bytes
  | .const (.i32 word) => 0x41 :: signed word.toInt32.toInt
  | .const (.i64 word) => 0x42 :: signed word.toInt64.toInt
  | .const (.f32 bits) => 0x43 :: littleEndian 4 bits.toNat
  | .const (.f64 bits) => 0x44 :: littleEndian 8 bits.toNat
  | .const (.v128 bits) => 0xFD :: 0x0C :: littleEndian 16 bits.toNat
  | .const (.ref type none) => 0xD0 :: valType (.ref type)
  | .const (.ref _ (some function)) => 0xD2 :: unsigned function
  | .globalGet index => 0x23 :: unsigned index
  | .arithmetic type op first second =>
    constInstrs first ++ constInstrs second ++ [arithmeticOp type op]

def constExpr (expr : ConstExpr) : Bytes := constInstrs expr ++ [0x0B]

def globalItem (global : Global) : Bytes :=
  globalType global.type ++ constExpr global.value

mutual

def instr : Instr → Bytes
  | .unreachable => [0x00]
  | .nop => [0x01]
  | .block result body => 0x02 :: blockType result ++ instrs body ++ [0x0B]
  | .loop result body => 0x03 :: blockType result ++ instrs body ++ [0x0B]
  | .ifElse result yes no =>
    let otherwise := if no.isEmpty then [] else 0x05 :: instrs no
    0x04 :: blockType result ++ instrs yes ++ otherwise ++ [0x0B]
  | .br label => 0x0C :: unsigned label
  | .brIf label => 0x0D :: unsigned label
  | .ret => [0x0F]
  | .call function => 0x10 :: unsigned function
  | .drop => [0x1A]
  | .localGet index => 0x20 :: unsigned index
  | .localSet index => 0x21 :: unsigned index
  | .localTee index => 0x22 :: unsigned index
  | .globalGet index => 0x23 :: unsigned index
  | .globalSet index => 0x24 :: unsigned index
  | .load .word place => 0x28 :: memArg place
  | .load .byte place => 0x2D :: memArg place
  | .store .word place => 0x36 :: memArg place
  | .store .byte place => 0x3A :: memArg place
  | .memorySize memory => 0x3F :: unsigned memory
  | .memoryGrow memory => 0x40 :: unsigned memory
  | .i32Const word => 0x41 :: signed word.toInt32.toInt
  | .i32Eqz => [0x45]
  | .binary op => [binaryOp op]

def instrs : List Instr → Bytes
  | [] => []
  | first :: rest => instr first ++ instrs rest

end

def localRun (run : Nat × ValType) : Bytes :=
  unsigned run.1 ++ valType run.2

def code (code : Code) : Bytes :=
  sized (vec localRun code.locals ++ instrs code.body ++ [0x0B])

def dataSegment (segment : DataSegment) : Bytes :=
  let place :=
    match segment.place with
    | none => [0x01]
    | some ⟨0, offset⟩ => 0x00 :: constExpr offset
    | some ⟨memory, offset⟩ => 0x02 :: unsigned memory ++ constExpr offset
  place ++ sized segment.bytes

def items (id : UInt8) (item : α → Bytes) (list : List α) : Bytes :=
  if list.isEmpty then [] else id :: sized (vec item list)

end Encode

def Module.encode (module : Module) : Bytes :=
  let start :=
    match module.start with
    | some function => 8 :: Encode.sized (Encode.unsigned function)
    | none => []
  [0x00, 0x61, 0x73, 0x6D, 0x01, 0x00, 0x00, 0x00] ++
    Encode.items 1 Encode.funcType module.types ++
    Encode.items 2 Encode.importItem module.imports ++
    Encode.items 3 Encode.unsigned module.functions ++
    Encode.items 4 Encode.tableType module.tables ++
    Encode.items 5 Encode.memoryType module.memories ++
    Encode.items 6 Encode.globalItem module.globals ++
    Encode.items 7 Encode.exportItem module.exports ++
    start ++
    Encode.items 10 Encode.code module.code ++
    Encode.items 11 Encode.dataSegment module.data

end KeymapViewer.Wasm
