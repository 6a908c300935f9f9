import KeymapViewer.Fault
import KeymapViewer.Text.Quoted

/-!
Handles of host values. A module names host values by numbers: an even number
is an entry of a table with reference counts, an odd one a place on a stack
of borrowed values, and the four smallest even numbers are fixed.
-/

namespace KeymapViewer

/-- A value of the host that a module can hold a handle to. -/
inductive HostValue where
  | undefined
  | null
  | bool (value : Bool)
  /-- A double, by its bits. -/
  | number (bits : UInt64)
  | string (text : String)
  | document
  /-- The element of the page with an id. -/
  | element (id : String)
  deriving DecidableEq, Repr

/-- How messages show a host value that is not a number. -/
def HostValue.show : HostValue → String
  | .undefined => "Undefined"
  | .null => "Null"
  | .bool true => "Bool(true)"
  | .bool false => "Bool(false)"
  | .number bits => s!"Number({bits})"
  | .string text => "String(" ++ Text.quoted text ++ ")"
  | .document => "Document"
  | .element id => "Element(" ++ Text.quoted id ++ ")"

structure Handle where
  raw : UInt32
  deriving DecidableEq, Repr

namespace Handle

def undefined : Handle := ⟨0⟩

def null : Handle := ⟨2⟩

def true : Handle := ⟨4⟩

def false : Handle := ⟨6⟩

/-- The handles below this index are fixed. -/
def reserved : Nat := 4

def isStack (handle : Handle) : Bool := handle.raw % 2 == 1

/-- The entry or place that the handle names. -/
def index (handle : Handle) : Nat := handle.raw.toNat / 2

def isSingleton (handle : Handle) : Bool :=
  !handle.isStack && handle.index < reserved

def ofEntry (entry : Nat) : Handle := ⟨((entry + reserved) * 2).toUInt32⟩

def ofPlace (place : Nat) : Handle := ⟨(place * 2 + 1).toUInt32⟩

/-- The entry of the table that an even handle names. -/
def entry (handle : Handle) : Nat := handle.index - reserved

def toSigned (handle : Handle) : Int := handle.raw.toInt32.toInt

end Handle

/-- The fixed handle of a value, if it has one. -/
def HostValue.singleton? : HostValue → Option Handle
  | .undefined => some .undefined
  | .null => some .null
  | .bool true => some .true
  | .bool false => some .false
  | _ => none

/-- The value of a fixed handle, by its index. -/
def HostValue.ofSingleton : Nat → HostValue
  | 0 => .undefined
  | 1 => .null
  | 2 => .bool true
  | _ => .bool false

namespace HandleTable

inductive Slot where
  | occupied (value : HostValue) (count : Nat)
  /-- A slot to reuse, and the one to reuse after it. -/
  | vacant (next : Option Nat)
  deriving DecidableEq, Repr

inductive Misuse where
  | stale (handle : Handle)
  | releasedStack (handle : Handle)
  deriving DecidableEq, Repr

def Misuse.message : Misuse → String
  | .stale handle =>
    s!"Handle {handle.raw} does not refer to a live host value"
  | .releasedStack handle =>
    s!"Stack handle {handle.raw} cannot be released"

def Misuse.handle : Misuse → Handle
  | .stale handle | .releasedStack handle => handle

def Misuse.fault (misuse : Misuse) : Fault :=
  (Fault.contract misuse.message).withDetail .handle
    (toString misuse.handle.raw)

end HandleTable

structure HandleTable where
  arena : Array HandleTable.Slot
  /-- The slot that became vacant last. -/
  freeHead : Option Nat
  stack : Array HostValue
  deriving Repr

namespace HandleTable

def empty : HandleTable := ⟨#[], none, #[]⟩

def occupant? (table : HandleTable) (entry : Nat) : Option (HostValue × Nat) :=
  match table.arena[entry]? with
  | some (.occupied value count) => some (value, count)
  | _ => none

def liveCount (table : HandleTable) : Nat :=
  table.arena.countP fun
    | .occupied _ _ => true
    | .vacant _ => false

def stackDepth (table : HandleTable) : Nat := table.stack.size

def setSlot (table : HandleTable) (entry : Nat) (slot : Slot) : HandleTable :=
  { table with arena := table.arena.setIfInBounds entry slot }

/-- The slot to reuse after an entry has been taken. -/
def nextFree (table : HandleTable) (entry : Nat) : Option Nat :=
  match table.arena[entry]? with
  | some (.vacant next) => next
  | _ => none

/-- Stores a value with one reference and returns its handle. A value with a
fixed handle is not stored. -/
def add (table : HandleTable) (value : HostValue) : Handle × HandleTable :=
  match value.singleton? with
  | some handle => (handle, table)
  | none =>
    match table.freeHead with
    | some entry =>
      let taken := table.setSlot entry (.occupied value 1)
      (.ofEntry entry, { taken with freeHead := table.nextFree entry })
    | none =>
      (.ofEntry table.arena.size,
        { table with arena := table.arena.push (.occupied value 1) })

/-- The value that a handle names. -/
def resolve (table : HandleTable) (handle : Handle) :
    Except Misuse HostValue :=
  if handle.isStack then
    match table.stack[handle.index]? with
    | some value => .ok value
    | none => .error (.stale handle)
  else if handle.isSingleton then .ok (.ofSingleton handle.index)
  else
    match table.occupant? handle.entry with
    | some (value, _) => .ok value
    | none => .error (.stale handle)

/-- Takes one more reference. A borrowed value is stored for it. -/
def clone (table : HandleTable) (handle : Handle) :
    Except Misuse (Handle × HandleTable) :=
  if handle.isSingleton then .ok (handle, table)
  else if handle.isStack then
    match table.stack[handle.index]? with
    | some value => .ok (table.add value)
    | none => .error (.stale handle)
  else
    match table.occupant? handle.entry with
    | some (value, count) =>
      .ok (handle, table.setSlot handle.entry (.occupied value (count + 1)))
    | none => .error (.stale handle)

/-- Gives one reference back. With the last one the entry becomes vacant. -/
def release (table : HandleTable) (handle : Handle) :
    Except Misuse HandleTable :=
  if handle.isSingleton then .ok table
  else if handle.isStack then .error (.releasedStack handle)
  else
    match table.occupant? handle.entry with
    | none => .error (.stale handle)
    | some (value, count) =>
      if 1 < count then
        .ok (table.setSlot handle.entry (.occupied value (count - 1)))
      else
        let vacated := table.setSlot handle.entry (.vacant table.freeHead)
        .ok { vacated with freeHead := some handle.entry }

/-- Puts a value on the stack, to last until it is popped. -/
def push (table : HandleTable) (value : HostValue) : Handle × HandleTable :=
  (.ofPlace table.stack.size, { table with stack := table.stack.push value })

def pop (table : HandleTable) : Option HostValue × HandleTable :=
  (table.stack.back?, { table with stack := table.stack.pop })

def clearStack (table : HandleTable) : HandleTable :=
  { table with stack := #[] }

def refCount? (table : HandleTable) (handle : Handle) : Option Nat :=
  if handle.isStack || handle.isSingleton then none
  else (table.occupant? handle.entry).map (·.2)

end HandleTable

end KeymapViewer
