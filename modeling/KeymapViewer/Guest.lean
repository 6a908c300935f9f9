import KeymapViewer.Memory.Span

/-!
Guests: anything with a linear memory and an allocator that the host can
exchange strings with.
-/

namespace KeymapViewer

open Text

/-- A call into a guest. Whether it fails or not, the guest may have
changed. -/
abbrev Guest.Call (σ α : Type) : Type := ExceptT Fault (StateM σ) α

class Guest (σ : Type) where
  memory : σ → Memory
  /-- Puts bytes into memory; the span has been checked before. -/
  store (pointer : UInt32) (bytes : Bytes) : Guest.Call σ Unit
  alloc (size : UInt32) : Guest.Call σ UInt32
  dealloc (pointer size : UInt32) : Guest.Call σ Unit
  /-- Frees a text that the guest handed over, up to its zero byte. -/
  deallocText (pointer : UInt32) : Guest.Call σ Unit

namespace Guest

variable {σ : Type} [Guest σ]

/-- The result of looking at the memory. -/
def inspect (look : Memory → Except SpanFault α) : Call σ α := do
  match look (memory (← get)) with
  | .ok value => return value
  | .error reason => throw reason.fault

/-- Writes a text at a pointer, and returns the number of bytes it takes. -/
def writeText (pointer : UInt32) (text : String) (terminator : Terminator) :
    Call σ UInt32 := do
  let bytes := terminator.encode text
  let length := bytes.length.toUInt32
  if length = 0 then
    return 0
  inspect (·.checkSpan pointer length)
  store pointer bytes
  return length

end Guest

end KeymapViewer
