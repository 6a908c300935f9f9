import KeymapViewer.Memory.Span
import KeymapViewer.Proofs.Text.Utf8
import Mathlib.Data.List.TakeWhile

/-!
Reading what has been written to linear memory. Bytes that a zero byte ends
are found by the scan wherever its chunks begin and end, and a text of a known
length is read back as it is.
-/

namespace KeymapViewer.Memory

open Text

variable {memory : Memory}

/-! ## Bytes after a write -/

theorem get_write_outside {offset place : Nat} {bytes : Bytes}
    (outside : place < offset ∨ offset + bytes.length ≤ place) :
    (memory.write offset bytes).get place = memory.get place := by
  induction bytes generalizing memory offset with
  | nil =>
      rfl
  | cons byte rest inductionHypothesis =>
      rw [List.length_cons] at outside
      rw [write, inductionHypothesis (by omega), get_set, if_neg (by omega)]

theorem get_write_inside {offset index : Nat} {bytes : Bytes}
    (inside : index < bytes.length) :
    (memory.write offset bytes).get (offset + index) = bytes[index] := by
  induction bytes generalizing memory offset index with
  | nil =>
      cases inside
  | cons byte rest inductionHypothesis =>
      rw [write]
      cases index with
      | zero =>
          rw [get_write_outside (by omega), get_set, if_pos (by omega)]
          rfl
      | succ index =>
          have shifted : offset + (index + 1) = offset + 1 + index := by omega
          rw [shifted, inductionHypothesis (Nat.lt_of_succ_lt_succ inside)]
          rfl

theorem write_append (offset : Nat) (first second : Bytes) :
    memory.write offset (first ++ second) =
      (memory.write offset first).write (offset + first.length) second := by
  induction first generalizing memory offset with
  | nil =>
      rfl
  | cons byte rest inductionHypothesis =>
      rw [List.cons_append, write, inductionHypothesis, write,
        List.length_cons, Nat.add_assoc offset 1, Nat.add_comm 1]

theorem length_read (offset length : Nat) :
    (memory.read offset length).length = length := by
  rw [read, List.length_map, List.length_range']

theorem getElem_read {offset length index : Nat}
    (inside : index < (memory.read offset length).length) :
    (memory.read offset length)[index] = memory.get (offset + index) := by
  simp [read]

/-- Whatever holds certain bytes one after another reads as them. -/
theorem read_eq_of_get {offset : Nat} {bytes : Bytes}
    (held : ∀ index (inside : index < bytes.length),
      memory.get (offset + index) = bytes[index]) :
    memory.read offset bytes.length = bytes := by
  refine List.ext_getElem (length_read ..) fun index _ inside => ?_
  rw [getElem_read, held index inside]

theorem read_write_self (offset : Nat) (bytes : Bytes) :
    (memory.write offset bytes).read offset bytes.length = bytes :=
  read_eq_of_get fun _ inside => get_write_inside inside

theorem read_congr {other : Memory} {offset length : Nat}
    (same : ∀ index < length,
      memory.get (offset + index) = other.get (offset + index)) :
    memory.read offset length = other.read offset length := by
  refine List.ext_getElem (by rw [length_read, length_read])
    fun index inside _ => ?_
  rw [getElem_read, getElem_read, same index (by rwa [length_read] at inside)]

theorem read_write_outside {offset place length : Nat} {bytes : Bytes}
    (outside : place + length ≤ offset ∨ offset + bytes.length ≤ place) :
    (memory.write offset bytes).read place length =
      memory.read place length :=
  read_congr fun _ _ => get_write_outside (by omega)

theorem read_add (offset first second : Nat) :
    memory.read offset (first + second) =
      memory.read offset first ++ memory.read (offset + first) second := by
  unfold read
  rw [← List.map_append, List.range'_append_1]

theorem read_succ (offset length : Nat) :
    memory.read offset (length + 1) =
      memory.get offset :: memory.read (offset + 1) length := by
  rw [read, List.range'_succ, List.map_cons, ← read]

/-! ## Bytes that a zero byte ends -/

/-- The scan finds the first zero byte, in whichever chunk it lies. -/
theorem scan_eq {cursor length : Nat} (pointer : UInt32)
    (inside : cursor + length < memory.size)
    (nonzero : ∀ index < length, memory.get (cursor + index) ≠ 0)
    (ended : memory.get (cursor + length) = 0) :
    memory.scan pointer cursor = .ok (memory.read cursor length) := by
  -- A chunk without a zero byte takes its own length away, not one byte.
  induction length using Nat.strong_induction_on generalizing cursor with
  | _ length inductionHypothesis =>
      have positive : 0 < scanChunk := by decide
      generalize chunkEq : min (memory.size - cursor) scanChunk = chunk
      have clean (bound : Nat) (low : bound ≤ length) :
          0 ∉ memory.read cursor bound := by
        intro member
        obtain ⟨index, small, zero⟩ := List.getElem_of_mem member
        rw [getElem_read] at zero
        rw [length_read] at small
        exact nonzero index (by omega) zero
      rw [scan, dif_pos (by omega)]
      simp only [chunkEq]
      by_cases here : length < chunk
      · obtain ⟨rest, rfl⟩ := Nat.exists_eq_add_of_lt here
        have found : memory.read cursor (length + rest + 1) =
            memory.read cursor length ++
              0 :: memory.read (cursor + length + 1) rest := by
          rw [Nat.add_assoc, read_add, read_succ, ended]
        have keeps : ∀ byte ∈ memory.read cursor length,
            (byte != 0) = true := fun byte member => by
          rw [bne_iff_ne]
          rintro rfl
          exact clean length le_rfl member
        rw [found, if_pos (by simp), List.takeWhile_append_of_pos keeps]
        simp
      · obtain ⟨rest, rfl⟩ := Nat.exists_eq_add_of_le (Nat.le_of_not_lt here)
        have later : memory.scan pointer (cursor + chunk) =
            .ok (memory.read (cursor + chunk) rest) :=
          inductionHypothesis rest (by omega) (by omega)
            (fun index low => by
              rw [Nat.add_assoc]
              exact nonzero _ (by omega))
            (by rwa [Nat.add_assoc])
        rw [if_neg (by simpa using clean chunk (by omega)), later, read_add]
        rfl

/-- The memory has the bytes at a place, none of them zero, and a zero byte
after them. -/
structure HoldsCText (memory : Memory) (place : Nat) (bytes : Bytes) :
    Prop where
  inside : place + bytes.length < memory.size
  held : ∀ index (_ : index < bytes.length),
    memory.get (place + index) = bytes[index]
  ended : memory.get (place + bytes.length) = 0
  noZero : 0 ∉ bytes

namespace HoldsCText

variable {place : Nat} {bytes : Bytes}

theorem write (rest : Bytes) (inside : place + bytes.length < memory.size)
    (noZero : 0 ∉ bytes) :
    (memory.write place (bytes ++ 0 :: rest)).HoldsCText place bytes := by
  refine ⟨by rwa [size_write], fun index small => ?_, ?_, noZero⟩
  · rw [get_write_inside (by simp; omega), List.getElem_append_left]
  · rw [get_write_inside (by simp), List.getElem_append_right le_rfl]
    simp

theorem get_ne_zero (holds : memory.HoldsCText place bytes) {index : Nat}
    (inside : index < bytes.length) : memory.get (place + index) ≠ 0 := by
  rw [holds.held index inside]
  exact fun zero => holds.noZero (zero ▸ List.getElem_mem inside)

theorem read (holds : memory.HoldsCText place bytes) :
    memory.read place (bytes.length + 1) = bytes ++ [0] := by
  rw [read_add, read_eq_of_get holds.held, read_succ, holds.ended]
  rfl

theorem scan (holds : memory.HoldsCText place bytes) (pointer : UInt32) :
    memory.scan pointer place = .ok bytes := by
  rw [scan_eq pointer holds.inside (fun _ => holds.get_ne_zero) holds.ended,
    read_eq_of_get holds.held]

end HoldsCText

/-! ## Texts of a known length -/

/-- The memory has the bytes of a text at a place. -/
structure HoldsText (memory : Memory) (place : Nat) (text : String) :
    Prop where
  inside : place + byteLength text ≤ memory.size
  bytes : memory.read place (byteLength text) = Utf8.encode text

namespace HoldsText

variable {place : Nat} {text : String}

theorem write (inside : place + byteLength text ≤ memory.size) :
    (memory.write place (Utf8.encode text)).HoldsText place text :=
  ⟨by rwa [size_write], read_write_self place (Utf8.encode text)⟩

/-- Bytes that are written behind the text leave it as it is. -/
theorem write_after (holds : memory.HoldsText place text) {offset : Nat}
    (after : place + byteLength text ≤ offset) (bytes : Bytes) :
    (memory.write offset bytes).HoldsText place text :=
  ⟨by rw [size_write]; exact holds.inside,
    (read_write_outside (.inl after)).trans holds.bytes⟩

theorem grow (holds : memory.HoldsText place text) {size : Nat}
    (larger : memory.size ≤ size) :
    Memory.HoldsText { memory with size } place text :=
  ⟨holds.inside.trans larger, holds.bytes⟩

theorem readText (holds : memory.HoldsText place text)
    (small : memory.size < wordCount 32) :
    memory.readText place.toUInt32 (byteLength text).toUInt32 =
      .ok text := by
  have inside := holds.inside
  have pointer : place.toUInt32.toNat = place :=
    Nat.mod_eq_of_lt (show place < wordCount 32 by omega)
  have length : (byteLength text).toUInt32.toNat = byteLength text :=
    Nat.mod_eq_of_lt (show byteLength text < wordCount 32 by omega)
  have decoded (other : String) :
      decodeAt place.toUInt32 (Utf8.encode other) = .ok other := by
    rw [decodeAt, Utf8.decode_encode]
    rfl
  unfold Memory.readText
  split
  · rename_i nothing
    have noBytes : Utf8.encode text = Utf8.encode "" := by
      rw [nothing] at length
      exact List.length_eq_zero_iff.mp length.symm
    rw [← decoded, ← decoded, noBytes]
  · rename_i something
    have checked : memory.checkSpan place.toUInt32
        (byteLength text).toUInt32 = .ok () := by
      rw [checkSpan, if_neg something, pointer, length,
        if_neg (by omega), if_neg (by omega)]
    simp only [checked, pointer, length, holds.bytes, decoded]

end HoldsText

end KeymapViewer.Memory
