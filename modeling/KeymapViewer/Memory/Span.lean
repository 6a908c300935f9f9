import KeymapViewer.Fault
import KeymapViewer.Memory.Basic
import KeymapViewer.Word

/-!
Texts in linear memory: spans of a known length, and texts that a zero byte
ends. Every access is checked against the size of the memory first.
-/

namespace KeymapViewer

open Text

inductive SpanFault where
  | overflow (pointer length : UInt32)
  | outside (pointer length : UInt32) (memorySize : Nat)
  | unterminated (pointer : UInt32) (cursor memorySize : Nat)
  | notText (pointer : UInt32) (fault : Utf8.Fault)
  deriving DecidableEq, Repr

namespace SpanFault

def message : SpanFault → String
  | .overflow pointer length =>
    s!"Memory range overflow: ptr={pointer}, len={length}"
  | .outside pointer length memorySize =>
    s!"Tried to read undefined memory: {pointer}..{pointer + length}, " ++
      s!"memory size is {memorySize}"
  | .unterminated pointer cursor _ =>
    s!"Tried to read undefined memory at {cursor} while looking for " ++
      s!"the end of the string at {pointer}"
  | .notText pointer fault =>
    s!"Invalid UTF-8 string in module memory at {pointer}: {fault.message}"

def details : SpanFault → List (Fault.Key × String)
  | .overflow pointer length =>
    [(.pointer, toString pointer), (.length, toString length)]
  | .outside pointer length memorySize =>
    [(.pointer, toString pointer), (.length, toString length),
      (.memorySize, toString memorySize)]
  | .unterminated pointer _ memorySize =>
    [(.pointer, toString pointer), (.memorySize, toString memorySize)]
  | .notText pointer _ => [(.pointer, toString pointer)]

/-- Memory faults are the module's breach of the contract. -/
def fault (reason : SpanFault) : Fault :=
  ⟨.contract, reason.message, reason.details⟩

end SpanFault

namespace Memory

/-- Checks that a span lies inside the memory. The end of a span has to be a
32-bit number, and an empty span lies inside any memory. -/
def checkSpan (memory : Memory) (pointer length : UInt32) :
    Except SpanFault Unit :=
  if length = 0 then .ok ()
  else if wordCount 32 ≤ pointer.toNat + length.toNat then
    .error (.overflow pointer length)
  else if memory.size < pointer.toNat + length.toNat then
    .error (.outside pointer length memory.size)
  else
    .ok ()

def decodeAt (pointer : UInt32) (bytes : Bytes) : Except SpanFault String :=
  (Utf8.decode bytes).mapError (.notText pointer)

def readText (memory : Memory) (pointer length : UInt32) :
    Except SpanFault String :=
  if length = 0 then .ok ""
  else
    match memory.checkSpan pointer length with
    | .error reason => .error reason
    | .ok () =>
      decodeAt pointer (memory.read pointer.toNat length.toNat)

def scanChunk : Nat := 256

/-- The bytes from a place up to the next zero byte, read in chunks. -/
def scan (memory : Memory) (pointer : UInt32) (cursor : Nat) :
    Except SpanFault Bytes :=
  if _inside : cursor < memory.size then
    let length := min (memory.size - cursor) scanChunk
    let chunk := memory.read cursor length
    if chunk.contains 0 then .ok (chunk.takeWhile (· != 0))
    else (memory.scan pointer (cursor + length)).map (chunk ++ ·)
  else
    .error (.unterminated pointer cursor memory.size)
termination_by memory.size - cursor
decreasing_by
  simp only [scanChunk]
  omega

/-- The text that starts at a pointer and ends before a zero byte. -/
def readCText (memory : Memory) (pointer : UInt32) :
    Except SpanFault String :=
  match memory.scan pointer pointer.toNat with
  | .error reason => .error reason
  | .ok bytes => decodeAt pointer bytes

end Memory

/-- Whether a text in memory is followed by a zero byte. -/
inductive Terminator where
  | none
  | nul
  deriving DecidableEq, Repr

/-- The bytes that a text takes in memory. -/
def Terminator.encode (terminator : Terminator) (text : String) : Bytes :=
  match terminator with
  | .none => Utf8.encode text
  | .nul => Utf8.encode text ++ [0]

end KeymapViewer
