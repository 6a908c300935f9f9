import KeymapViewer.Instance
import KeymapViewer.Proofs.Exchange.Sharing
import KeymapViewer.Proofs.Memory.Scan

/-!
The spans that the checks let through. Checked and counted without bounds, a
span comes out the same, with one exception: in a memory of 4 GiB the spans
that end with the last byte are turned away, since their end is no word.
-/

namespace KeymapViewer

open Text

/-- Guests that take all bytes whose places are in their memory. -/
class Guest.TakesBytes (σ : Type) [Guest σ] : Prop where
  exists_store {pointer : UInt32} {bytes : Bytes} {guest : σ}
    (inside : pointer.toNat + bytes.length ≤ (Guest.memory guest).size) :
    ∃ after, (Guest.store pointer bytes).run.run guest = (.ok (), after)

instance {μ ς : Type} [Wasm.Runtime μ ς] :
    Guest.TakesBytes (Instance μ ς) where
  exists_store _ := ⟨_, rfl⟩

instance : Guest.TakesBytes Exchange.Dispenser where
  exists_store _ := ⟨_, rfl⟩

namespace Memory

/-- So many bytes from a place on are in the memory. No bytes always are. -/
def Covers (memory : Memory) (place count : Nat) : Prop :=
  count = 0 ∨ place + count ≤ memory.size

/-- The span ends with the last byte of a memory of 4 GiB. -/
def EndsFull (memory : Memory) (pointer length : UInt32) : Prop :=
  pointer.toNat + length.toNat = wordCount 32 ∧ memory.size = wordCount 32

variable {memory : Memory} {pointer length : UInt32}

theorem checkSpan_iff_covers (fits : memory.size ≤ wordCount 32)
    (pointer length : UInt32) :
    memory.checkSpan pointer length = .ok () ↔
      memory.Covers pointer.toNat length.toNat ∧
        ¬ memory.EndsFull pointer length := by
  have word : pointer.toNat < wordCount 32 := pointer.toNat_lt
  rw [checkSpan_eq_ok_iff, ← UInt32.toNat_inj, Covers, EndsFull]
  change length.toNat = 0 ∨ _ ↔ _
  omega

theorem EndsFull.covers (last : memory.EndsFull pointer length) :
    memory.Covers pointer.toNat length.toNat :=
  .inr (last.1.trans last.2.symm).le

theorem EndsFull.checkSpan (last : memory.EndsFull pointer length) :
    memory.checkSpan pointer length = .error (.overflow pointer length) := by
  have word : pointer.toNat < wordCount 32 := pointer.toNat_lt
  have nonempty : length ≠ 0 := by
    rintro rfl
    exact word.ne last.1
  rw [Memory.checkSpan, if_neg nonempty, if_pos last.1.ge]

theorem EndsFull.readText (last : memory.EndsFull pointer length) :
    memory.readText pointer length = .error (.overflow pointer length) := by
  have nonempty : length ≠ 0 := by
    rintro rfl
    have checked := last.checkSpan
    rw [Memory.checkSpan, if_pos rfl] at checked
    cases checked
  rw [Memory.readText, if_neg nonempty, last.checkSpan]

theorem readText_eq_ok_iff_decode (pointer length : UInt32) (text : String) :
    memory.readText pointer length = .ok text ↔
      memory.checkSpan pointer length = .ok () ∧
        Utf8.decode (memory.read pointer.toNat length.toNat) = .ok text := by
  rw [readText_eq_ok_iff, Utf8.decode_eq_ok_iff, eq_comm (b := Utf8.encode _)]

section Guests

variable {σ : Type} [Guest σ]

/-- A text is written exactly if the span of its bytes is let through. -/
theorem writeText_ok_iff_checkSpan [Guest.TakesBytes σ] {guest : σ}
    {text : String} {terminator : Terminator}
    (counted : (terminator.encode text).length = length.toNat) :
    (∃ count after, (Guest.writeText pointer text terminator).run.run guest =
        (.ok count, after)) ↔
      (Guest.memory guest).checkSpan pointer length = .ok () := by
  have sameLength : (terminator.encode text).length.toUInt32 = length := by
    rw [counted]
    exact Wasm.toUInt32_toNat length
  rw [Exchange.run_writeText, sameLength]
  by_cases empty : length = 0
  · rw [if_pos empty, empty]
    exact ⟨fun _ => (checkSpan_eq_ok_iff ..).mpr (.inl rfl),
      fun _ => ⟨_, _, rfl⟩⟩
  · rw [if_neg empty]
    cases checked : (Guest.memory guest).checkSpan pointer length with
    | error reason =>
        constructor
        · rintro ⟨count, after, same⟩
          cases same
        · intro same
          cases same
    | ok done =>
        have inside : pointer.toNat + (terminator.encode text).length ≤
            (Guest.memory guest).size := by
          rw [counted]
          exact (((checkSpan_eq_ok_iff ..).mp checked).resolve_left empty).2
        obtain ⟨after, stored⟩ := Guest.TakesBytes.exists_store inside
        rw [stored]
        exact ⟨fun _ => rfl, fun _ => ⟨_, _, rfl⟩⟩

/-- All that works on a span goes by the integers: the check, the reader and
the writer take it exactly if its bytes are in the memory. -/
structure GoesByIntegers (σ : Type) [Guest σ] (memory : Memory)
    (pointer length : UInt32) : Prop where
  checkSpan : memory.checkSpan pointer length = .ok () ↔
    memory.Covers pointer.toNat length.toNat
  readText : ∀ text, memory.readText pointer length = .ok text ↔
    memory.Covers pointer.toNat length.toNat ∧
      Utf8.decode (memory.read pointer.toNat length.toNat) = .ok text
  writeText : ∀ (guest : σ) (text : String) (terminator : Terminator),
    Guest.memory guest = memory →
    (terminator.encode text).length = length.toNat →
    ((∃ count after,
        (Guest.writeText pointer text terminator).run.run guest =
          (.ok count, after)) ↔
      memory.Covers pointer.toNat length.toNat)

/-- The spans that end with the last byte of a memory of 4 GiB are the only
ones that are treated otherwise: they are turned away as too long. -/
theorem goesByIntegers_iff [Guest.TakesBytes σ]
    (fits : memory.size ≤ wordCount 32) (pointer length : UInt32) :
    (memory.GoesByIntegers σ pointer length ↔
        ¬ memory.EndsFull pointer length) ∧
      (memory.EndsFull pointer length →
        memory.checkSpan pointer length =
            .error (.overflow pointer length) ∧
          memory.readText pointer length =
            .error (.overflow pointer length)) := by
  refine ⟨⟨?_, ?_⟩, fun last => ⟨last.checkSpan, last.readText⟩⟩
  · intro right last
    have checked := right.checkSpan.mpr last.covers
    rw [last.checkSpan] at checked
    cases checked
  · intro before
    have same : memory.checkSpan pointer length = .ok () ↔
        memory.Covers pointer.toNat length.toNat := by
      rw [checkSpan_iff_covers fits, and_iff_left before]
    refine ⟨same, fun text => ?_, fun guest text terminator held counted => ?_⟩
    · rw [readText_eq_ok_iff_decode, same]
    · rw [writeText_ok_iff_checkSpan counted, held, same]

end Guests

theorem goesByIntegers_fullMemory :
    fullMemory.size ≤ wordCount 32 ∧
      fullMemory.GoesByIntegers Instance 4294966000 1295 ∧
      ¬ fullMemory.GoesByIntegers Instance 4294966000 1296 := by
  have whole : fullMemory.EndsFull 4294966000 1296 := ⟨rfl, rfl⟩
  refine ⟨le_rfl, (goesByIntegers_iff le_rfl 4294966000 1295).1.mpr ?_, ?_⟩
  · rintro ⟨last, -⟩
    revert last
    decide
  · intro right
    exact (goesByIntegers_iff le_rfl 4294966000 1296).1.mp right whole

/-- A memory of 4 GiB, in which no byte has been written. -/
def blankMemory : Memory := .new (wordCount 32) 0

/-- Its last byte is turned away as a span, although the text that it ends is
found there. -/
theorem not_goesByIntegers_last :
    ¬ blankMemory.GoesByIntegers Instance 4294967295 1 ∧
      blankMemory.Covers 4294967295 1 ∧
      blankMemory.checkSpan 4294967295 1 = .error (.overflow 4294967295 1) ∧
      blankMemory.readText 4294967295 1 = .error (.overflow 4294967295 1) ∧
      blankMemory.readCText 4294967295 = .ok "" := by
  have last : blankMemory.EndsFull 4294967295 1 := ⟨rfl, rfl⟩
  have first : blankMemory.FirstZero (4294967295 : UInt32).toNat 0 := by
    refine ⟨by decide, fun index before => ?_, ?_⟩
    · exact absurd before (Nat.not_lt_zero index)
    · simp [blankMemory, new, get]
  refine ⟨fun right => ?_, last.covers, last.checkSpan, last.readText, ?_⟩
  · have checked := right.checkSpan.mpr last.covers
    rw [last.checkSpan] at checked
    cases checked
  · rw [first.readCText, decodeAt_eq_ok_iff]
    rfl

end Memory

end KeymapViewer
