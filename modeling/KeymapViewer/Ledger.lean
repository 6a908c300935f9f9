import KeymapViewer.Guest
import KeymapViewer.Word

/-!
Strings across the boundary. The host copies a string into memory that it
asks the guest for, and keeps a ledger of the blocks it has to give back; a
string that the guest hands over is read and freed in one step.
-/

namespace KeymapViewer

open Text

/-- A string that the host has copied into a guest, in a block of its own. -/
structure GuestString where
  pointer : UInt32
  /-- The number of bytes, the terminator not counted. -/
  length : UInt32
  capacity : UInt32
  terminator : Terminator
  deriving DecidableEq, Repr

def GuestString.isEmpty (string : GuestString) : Bool := string.length == 0

structure Ledger where
  /-- The pointer and the size of each block that is not given back yet. -/
  live : List (UInt32 × UInt32)
  written : Nat
  released : Nat
  consumed : Nat
  deriving DecidableEq, Repr

/-- How a guest, or the user of a ledger, breaks the rules of ownership. -/
inductive Ledger.Violation where
  | tooLong (length : Nat)
  | stillInUse (pointer : UInt32)
  | wrongCapacity (pointer capacity recorded : UInt32)
  | alreadyReleased (pointer : UInt32)
  | hostOwned (pointer : UInt32)
  deriving DecidableEq, Repr

namespace Ledger

def Violation.message : Violation → String
  | .tooLong length =>
    s!"String of {length} bytes does not fit in 32-bit module memory"
  | .stillInUse pointer =>
    s!"Module allocator returned pointer {pointer} which is still in use"
  | .wrongCapacity pointer capacity recorded =>
    s!"Releasing pointer {pointer} with capacity {capacity} " ++
      s!"but it was allocated with {recorded}"
  | .alreadyReleased pointer => s!"Pointer {pointer} was already released"
  | .hostOwned pointer =>
    s!"Module returned pointer {pointer} which the host still owns"

def Violation.details : Violation → List (Fault.Key × String)
  | .tooLong _ => []
  | .stillInUse pointer | .alreadyReleased pointer | .hostOwned pointer =>
    [(.pointer, toString pointer)]
  | .wrongCapacity pointer capacity _ =>
    [(.pointer, toString pointer), (.length, toString capacity)]

def Violation.fault (violation : Violation) : Fault :=
  ⟨.contract, violation.message, violation.details⟩

def empty : Ledger := ⟨[], 0, 0, 0⟩

/-- The number of blocks that are not given back yet. -/
def outstanding (ledger : Ledger) : Nat := ledger.live.length

def capacity? (ledger : Ledger) (pointer : UInt32) : Option UInt32 :=
  ledger.live.lookup pointer

def holds (ledger : Ledger) (pointer : UInt32) : Bool :=
  (ledger.capacity? pointer).isSome

def record (ledger : Ledger) (pointer capacity : UInt32) : Ledger :=
  { ledger with
    live := (pointer, capacity) :: ledger.live
    written := ledger.written + 1 }

def forget (ledger : Ledger) (pointer : UInt32) : Ledger :=
  { ledger with live := ledger.live.filter (·.1 != pointer) }

end Ledger

/-- A step that works on a ledger and its guest. -/
abbrev Exchange (σ α : Type) : Type := ExceptT Fault (StateM (Ledger × σ)) α

namespace Exchange

variable {σ : Type}

def perform (step : Exchange σ α) (ledger : Ledger) (guest : σ) :
    Except Fault α × Ledger × σ :=
  step.run.run (ledger, guest)

def ledger : Exchange σ Ledger := do return (← get).1

def update (change : Ledger → Ledger) : Exchange σ Unit :=
  modify fun (ledger, guest) => (change ledger, guest)

/-- A call of the guest, which leaves the ledger alone. -/
def call (step : Guest.Call σ α) : Exchange σ α :=
  ExceptT.mk fun (ledger, guest) =>
    let (result, guest) := (step.run).run guest
    (result, (ledger, guest))

def violate (violation : Ledger.Violation) : Exchange σ α :=
  throw violation.fault

variable [Guest σ]

/-- Copies a text into a fresh block of the guest. The block has one byte
more than the text, whether or not a zero byte is written. -/
def writeString (text : String) (terminator : Terminator) :
    Exchange σ GuestString := do
  if wordCount 32 ≤ byteLength text then
    violate (.tooLong (byteLength text))
  let length := (byteLength text).toUInt32
  let capacity := length + 1
  let pointer ← call (Guest.alloc capacity)
  if (← ledger).holds pointer then
    violate (.stillInUse pointer)
  try
    let _ ← call (Guest.writeText pointer text terminator)
  catch fault =>
    call (Guest.dealloc pointer capacity)
    throw fault
  update (·.record pointer capacity)
  return ⟨pointer, length, capacity, terminator⟩

/-- Gives the block of a string back. The ledger drops the block before it is
compared with the string. -/
def release (string : GuestString) : Exchange σ Unit := do
  let recorded := (← ledger).capacity? string.pointer
  update (·.forget string.pointer)
  match recorded with
  | none => violate (.alreadyReleased string.pointer)
  | some capacity =>
    if capacity ≠ string.capacity then
      violate (.wrongCapacity string.pointer string.capacity capacity)
  call (Guest.dealloc string.pointer string.capacity)
  update fun ledger => { ledger with released := ledger.released + 1 }

/-- The text in a span that stays the guest's. -/
def readString (pointer length : UInt32) : Exchange σ String :=
  call (Guest.inspect (·.readText pointer length))

/-- Reads a text that the guest hands over, and has it freed. -/
def takeCString (pointer : UInt32) : Exchange σ String := do
  if (← ledger).holds pointer then
    violate (.hostOwned pointer)
  let text ← call (Guest.inspect (·.readCText pointer))
  try
    call (Guest.deallocText pointer)
  catch fault =>
    throw (fault.withDetail .pointer (toString pointer))
  update fun ledger => { ledger with consumed := ledger.consumed + 1 }
  return text

end Exchange

end KeymapViewer
