import KeymapViewer.Proofs.Memory.CText
import KeymapViewer.Proofs.Wasm.Word
import Mathlib.Data.Set.Lattice
import Mathlib.Order.CompletePartialOrder
import Mathlib.Order.Interval.Set.Basic

/-!
Spans of linear memory. Which spans can be read is known from their ends, and
what is read there depends on the bytes of the span alone, so a text stays
readable through all that happens elsewhere.
-/

namespace KeymapViewer

open Text Wasm

/-! ## The bytes of a text -/

namespace Terminator

/-- A text fits into its block, with room for a zero byte. -/
theorem length_encode_le (terminator : Terminator) (text : String) :
    (terminator.encode text).length ≤ byteLength text + 1 := by
  cases terminator with
  | none =>
      exact Nat.le_succ _
  | nul =>
      rw [Terminator.encode, List.length_append]
      exact le_rfl

theorem encode_eq_append (terminator : Terminator) (text : String) :
    ∃ rest, terminator.encode text = Utf8.encode text ++ rest := by
  cases terminator with
  | none =>
      exact ⟨[], (List.append_nil _).symm⟩
  | nul =>
      exact ⟨[0], rfl⟩

theorem byteLength_le (terminator : Terminator) (text : String) :
    byteLength text ≤ (terminator.encode text).length := by
  obtain ⟨rest, same⟩ := terminator.encode_eq_append text
  rw [same, List.length_append]
  exact Nat.le_add_right ..

theorem encode_eq_nil {terminator : Terminator} {text : String}
    (fits : (terminator.encode text).length < wordCount 32)
    (nothing : (terminator.encode text).length.toUInt32 = 0) :
    terminator.encode text = [] := by
  apply List.eq_nil_of_length_eq_zero
  rw [← toNat_toUInt32 fits, nothing]
  rfl

end Terminator

namespace Memory

variable {memory other : Memory}

/-! ## Spans that can be read -/

theorem checkSpan_eq_ok_iff (memory : Memory) (pointer length : UInt32) :
    memory.checkSpan pointer length = .ok () ↔
      length = 0 ∨
        (pointer.toNat + length.toNat < wordCount 32 ∧
          pointer.toNat + length.toNat ≤ memory.size) := by
  unfold checkSpan
  constructor
  · intro checked
    split at checked
    · exact .inl ‹_›
    · split at checked
      · cases checked
      · split at checked
        · cases checked
        · right
          omega
  · rintro (empty | ⟨small, inside⟩)
    · rw [if_pos empty]
    · split
      · rfl
      · rw [if_neg (by omega), if_neg (by omega)]

theorem decodeAt_eq_ok_iff (pointer : UInt32) (bytes : Bytes)
    (text : String) :
    decodeAt pointer bytes = .ok text ↔ bytes = Utf8.encode text := by
  rw [eq_comm (b := Utf8.encode text), ← Utf8.decode_eq_ok_iff]
  unfold decodeAt
  cases Utf8.decode bytes with
  | error fault =>
      simp [Except.mapError]
  | ok found =>
      simp [Except.mapError]

/-- A span gives a text if it lies inside the memory and has the bytes of the
text. -/
theorem readText_eq_ok_iff (memory : Memory) (pointer length : UInt32)
    (text : String) :
    memory.readText pointer length = .ok text ↔
      memory.checkSpan pointer length = .ok () ∧
        memory.read pointer.toNat length.toNat = Utf8.encode text := by
  unfold readText
  by_cases empty : length = 0
  · subst empty
    have checked : memory.checkSpan pointer 0 = .ok () :=
      (checkSpan_eq_ok_iff ..).mpr (.inl rfl)
    have decoded : decodeAt pointer [] = .ok "" :=
      (decodeAt_eq_ok_iff ..).mpr rfl
    have nothing : memory.read pointer.toNat (0 : UInt32).toNat = [] := rfl
    rw [if_pos rfl, checked, nothing, ← decodeAt_eq_ok_iff pointer, decoded]
    simp
  · rw [if_neg empty, ← decodeAt_eq_ok_iff pointer]
    cases memory.checkSpan pointer length with
    | error reason =>
        simp
    | ok checked =>
        simp

/-! ## Memories that agree on a span -/

def span (start length : Nat) : Set Nat := Set.Ico start (start + length)

/-- The memory may have grown. What it had at certain places, it has still. -/
structure SameIn (places : Set Nat) (before after : Memory) : Prop where
  size : before.size ≤ after.size
  get : ∀ place ∈ places, place < before.size →
    after.get place = before.get place

namespace SameIn

variable {places fewer : Set Nat} {last : Memory}

theorem refl (places : Set Nat) (memory : Memory) :
    SameIn places memory memory :=
  ⟨le_rfl, fun _ _ _ => rfl⟩

theorem trans (first : SameIn places memory other)
    (second : SameIn places other last) : SameIn places memory last := by
  refine ⟨first.size.trans second.size, ?_⟩
  intro place member inside
  rw [second.get place member (inside.trans_le first.size)]
  exact first.get place member inside

theorem mono (same : SameIn places memory other) (subset : fewer ⊆ places) :
    SameIn fewer memory other :=
  ⟨same.size, fun place member => same.get place (subset member)⟩

theorem write {offset : Nat} {bytes : Bytes}
    (apart : Disjoint (span offset bytes.length) places) :
    SameIn places memory (memory.write offset bytes) := by
  refine ⟨(size_write ..).ge, ?_⟩
  intro place member _
  apply get_write_outside
  have outside := Set.disjoint_right.mp apart member
  rw [span, Set.mem_Ico] at outside
  omega

/-- What a span gives depends on its own bytes. -/
theorem readText {pointer length : UInt32} {text : String}
    (same : SameIn (span pointer.toNat length.toNat) memory other)
    (read : memory.readText pointer length = .ok text) :
    other.readText pointer length = .ok text := by
  rw [readText_eq_ok_iff, checkSpan_eq_ok_iff] at read ⊢
  obtain ⟨inside, bytes⟩ := read
  constructor
  · apply inside.imp_right
    rintro ⟨small, ends⟩
    exact ⟨small, ends.trans same.size⟩
  · rw [← bytes]
    apply read_congr
    intro index low
    refine same.get _ ⟨Nat.le_add_right .., Nat.add_lt_add_left low _⟩ ?_
    rcases inside with empty | ⟨-, ends⟩
    · rw [empty] at low
      cases low
    · omega

end SameIn

/-! ## Texts that have just been written -/

variable {pointer : UInt32} {text : String} {terminator : Terminator}

/-- A text is read back from where it has been written, whether or not a zero
byte ends it. -/
theorem readText_write (fits : (terminator.encode text).length < wordCount 32)
    (checked : memory.checkSpan pointer
      (terminator.encode text).length.toUInt32 = .ok ()) :
    (memory.write pointer.toNat (terminator.encode text)).readText pointer
      (byteLength text).toUInt32 = .ok text := by
  have shorter := terminator.byteLength_le text
  have length : (byteLength text).toUInt32.toNat = byteLength text :=
    toNat_toUInt32 (by omega)
  have bytes : (memory.write pointer.toNat (terminator.encode text)).read
      pointer.toNat (byteLength text) = Utf8.encode text := by
    apply read_eq_of_get
    intro index low
    rw [get_write_inside (low.trans_le shorter)]
    obtain ⟨rest, same⟩ := terminator.encode_eq_append text
    simp only [same, List.getElem_append_left low]
  rw [readText_eq_ok_iff, length]
  refine ⟨?_, bytes⟩
  rw [checkSpan_eq_ok_iff, toNat_toUInt32 fits] at checked
  rw [checkSpan_eq_ok_iff, length, size_write]
  rcases checked with empty | ⟨small, inside⟩
  · left
    rw [Terminator.encode_eq_nil fits empty, List.length_nil] at shorter
    rw [Nat.le_zero.mp shorter]
    rfl
  · right
    omega

/-- The reader of texts that a zero byte ends finds the first character
zero. -/
theorem readCText_write
    (inside : pointer.toNat + (Terminator.nul.encode text).length ≤
      memory.size) :
    (memory.write pointer.toNat (Terminator.nul.encode text)).readCText
      pointer = .ok (upToNul text) := by
  obtain ⟨rest, same⟩ := Utf8.encode_append_zero text
  rw [Terminator.encode] at inside ⊢
  rw [same] at inside ⊢
  have bound : pointer.toNat + (Utf8.encode (upToNul text)).length <
      memory.size := by
    rw [List.length_append, List.length_cons] at inside
    omega
  have holds := HoldsCText.write rest bound
    (Utf8.zero_notMem_encode (notMem_upToNul text))
  rw [readCText, holds.scan]
  exact (decodeAt_eq_ok_iff ..).mpr rfl

end Memory

end KeymapViewer
