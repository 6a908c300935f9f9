import KeymapViewer.Text.Utf8
import KeymapViewer.Wasm.Types
import KeymapViewer.Word

/-!
Reading the binary format: bytes, numbers of variable length, names and
vectors. Every reader returns what it has read and the bytes after it.
-/

namespace KeymapViewer.Wasm

open Text

inductive Malformed where
  | truncated
  | badHeader
  | badNumber
  | badName
  | badSectionId
  | sectionOrder
  | trailingBytes
  | countMismatch
  | unknownOpcode (code : Nat)
  | unknownKind (code : Nat)
  | invalid (reason : String)
  deriving DecidableEq, Repr

def Malformed.message : Malformed → String
  | .truncated => "unexpected end-of-file"
  | .badHeader => "bad magic number or version"
  | .badNumber => "invalid LEB128 integer"
  | .badName => "malformed UTF-8 encoding"
  | .badSectionId => "malformed section id"
  | .sectionOrder => "section out of order"
  | .trailingBytes => "unexpected content at the end of a section"
  | .countMismatch => "function and code section have inconsistent lengths"
  | .unknownOpcode code => s!"unknown opcode {code}"
  | .unknownKind code => s!"unknown kind {code}"
  | .invalid reason => reason

abbrev Reader (α : Type) : Type := StateT Bytes (Except Malformed) α

namespace Reader

def byte : Reader UInt8 := do
  match ← get with
  | [] => throw .truncated
  | first :: rest =>
    set rest
    return first

def bytes (count : Nat) : Reader Bytes := do
  let all ← get
  if all.length < count then
    throw .truncated
  set (all.drop count)
  return all.take count

def atEnd : Reader Bool := return (← get).isEmpty

/-- Fails unless everything has been read. -/
def finish : Reader Unit := do
  if !(← atEnd) then
    throw .trailingBytes

/-- An unsigned number of at most so many bits, seven in a byte, the lowest
first. -/
def unsigned (bits : Nat) : Reader Nat := do
  let first := (← byte).toNat
  if first < 128 then
    if first < wordCount bits then return first
    else throw .badNumber
  else if _more : 7 < bits then
    let rest ← unsigned (bits - 7)
    return first - 128 + 128 * rest
  else
    throw .badNumber
termination_by bits

/-- A signed number of at most so many bits in two's complement. -/
def signed (bits : Nat) : Reader Int := do
  let first := (← byte).toNat
  if first < 128 then
    let value : Int := if first < 64 then first else first - 128
    if -(wordCount (bits - 1) : Int) ≤ value ∧ value < wordCount (bits - 1) then
      return value
    else throw .badNumber
  else if _more : 7 < bits then
    let rest ← signed (bits - 7)
    return first - 128 + 128 * rest
  else
    throw .badNumber
termination_by bits

def u32 : Reader Nat := unsigned 32

def u64 : Reader Nat := unsigned 64

/-- So many items, one after another. -/
def replicate (item : Reader α) : Nat → Reader (List α)
  | 0 => return []
  | count + 1 => do
    let first ← item
    let rest ← replicate item count
    return first :: rest

/-- A vector: the number of its items, and the items. -/
def vec (item : Reader α) : Reader (List α) := do
  replicate item (← u32)

def nameLimit : Nat := 100000

def name : Reader String := do
  let length ← u32
  if nameLimit < length then
    throw .badName
  let text ← bytes length
  match Utf8.decode text with
  | .ok name => return name
  | .error _ => throw .badName

/-- Reads all of a byte sequence. -/
def whole (item : Reader α) (input : Bytes) : Except Malformed α := do
  let (value, rest) ← item.run input
  if rest.isEmpty then return value
  else throw .trailingBytes

end Reader

end KeymapViewer.Wasm
