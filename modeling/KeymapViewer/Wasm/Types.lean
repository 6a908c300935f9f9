/-!
Types and values of WebAssembly modules.
-/

namespace KeymapViewer.Wasm

/-- What a reference can refer to. -/
inductive RefType where
  | func
  /-- A value of the host. -/
  | foreign
  | exception
  deriving DecidableEq, Repr

def RefType.name : RefType → String
  | .func => "FuncRef"
  | .foreign => "ExternRef"
  | .exception => "ExceptionRef"

inductive ValType where
  | i32
  | i64
  | f32
  | f64
  | v128
  | ref (type : RefType)
  deriving DecidableEq, Repr

def ValType.name : ValType → String
  | .i32 => "I32"
  | .i64 => "I64"
  | .f32 => "F32"
  | .f64 => "F64"
  | .v128 => "V128"
  | .ref type => type.name

structure FuncType where
  parameters : List ValType
  results : List ValType
  deriving DecidableEq, Repr

def listTypes (types : List ValType) : String :=
  "[" ++ ", ".intercalate (types.map ValType.name) ++ "]"

def FuncType.show (type : FuncType) : String :=
  listTypes type.parameters ++ " -> " ++ listTypes type.results

/-- A value. Floats and vectors are kept as their bits; a reference is null or
the number of what it refers to. -/
inductive Value where
  | i32 (word : UInt32)
  | i64 (word : UInt64)
  | f32 (bits : UInt32)
  | f64 (bits : UInt64)
  | v128 (bits : BitVec 128)
  | ref (type : RefType) (target : Option Nat)
  deriving DecidableEq, Repr

def Value.type : Value → ValType
  | .i32 _ => .i32
  | .i64 _ => .i64
  | .f32 _ => .f32
  | .f64 _ => .f64
  | .v128 _ => .v128
  | .ref type _ => .ref type

/-- The value that a variable begins with. -/
def ValType.zero : ValType → Value
  | .i32 => .i32 0
  | .i64 => .i64 0
  | .f32 => .f32 0
  | .f64 => .f64 0
  | .v128 => .v128 0
  | .ref type => .ref type none

def pageSize : Nat := 65536

def maxPages : Nat := 65536

structure Limits where
  min : Nat
  max : Option Nat
  deriving DecidableEq, Repr

structure MemoryType where
  limits : Limits
  /-- Whether addresses are 64-bit numbers. -/
  wide : Bool
  deriving DecidableEq, Repr

/-- The type of the addresses of a memory. -/
def MemoryType.addressType (memory : MemoryType) : ValType :=
  if memory.wide then .i64 else .i32

structure TableType where
  limits : Limits
  /-- Whether places in it are 64-bit numbers. -/
  wide : Bool
  deriving DecidableEq, Repr

structure GlobalType where
  type : ValType
  mutable : Bool
  deriving DecidableEq, Repr

end KeymapViewer.Wasm
