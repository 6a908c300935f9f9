import Std.Data.HashMap
import KeymapViewer.Text.Utf8

/-!
The linear memory of a guest: a number of bytes, of which those never written
all have one value.
-/

namespace KeymapViewer

open Text

structure Memory where
  size : Nat
  fill : UInt8
  written : Std.HashMap Nat UInt8

namespace Memory

def new (size : Nat) (fill : UInt8) : Memory := ⟨size, fill, ∅⟩

def get (memory : Memory) (offset : Nat) : UInt8 :=
  memory.written.getD offset memory.fill

def set (memory : Memory) (offset : Nat) (byte : UInt8) : Memory :=
  { memory with written := memory.written.insert offset byte }

def read (memory : Memory) (offset length : Nat) : Bytes :=
  (List.range' offset length).map memory.get

def write (memory : Memory) (offset : Nat) : Bytes → Memory
  | [] => memory
  | byte :: rest => (memory.set offset byte).write (offset + 1) rest

theorem get_set (memory : Memory) (offset place : Nat) (byte : UInt8) :
    (memory.set offset byte).get place =
      if offset = place then byte else memory.get place := by
  simp only [get, set, Std.HashMap.getD_insert, beq_iff_eq]

theorem size_write (memory : Memory) (offset : Nat) (bytes : Bytes) :
    (memory.write offset bytes).size = memory.size := by
  induction bytes generalizing memory offset with
  | nil => rfl
  | cons byte rest ih => exact ih (memory.set offset byte) (offset + 1)

end Memory

end KeymapViewer
