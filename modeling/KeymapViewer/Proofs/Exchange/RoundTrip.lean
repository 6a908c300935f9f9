import KeymapViewer.Instance
import KeymapViewer.Proofs.Exchange.Sharing
import KeymapViewer.Proofs.Memory.Span
import KeymapViewer.Proofs.Wasm.Turn

/-!
Strings that come back. A string that has been issued lies in memory as its
text, wherever the guest has put its block, and both readers find it there.
-/

namespace KeymapViewer

open Text Wasm

/-- Guests whose memory has the bytes that were put into it, and nothing else
that is new. What their allocators do to the memory is left open. -/
class LawfulGuest (σ : Type) [Guest σ] : Prop where
  memory_store {pointer : UInt32} {bytes : Bytes} {guest after : σ}
    (stored : (Guest.store pointer bytes).run.run guest = (.ok (), after)) :
    Guest.memory after = (Guest.memory guest).write pointer.toNat bytes

instance {μ ς : Type} [Runtime μ ς] [LawfulRuntime μ] :
    LawfulGuest (Instance μ ς) where
  memory_store stored := by
    cases stored
    exact LawfulRuntime.memory_write _ _ _

instance {σ : Type} [Guest σ] [LawfulGuest σ] : LawfulGuest (Recorded σ) where
  memory_store {pointer bytes guest after} stored := by
    rw [Recorded.run_store] at stored
    rcases inside : (Guest.store pointer bytes).run.run guest.guest with
      ⟨result, left⟩
    rw [inside] at stored
    cases stored
    have written := LawfulGuest.memory_store inside
    exact written

instance : LawfulGuest Exchange.Dispenser where
  memory_store stored := by
    cases stored
    rfl

namespace Exchange

section

variable {σ : Type} [Guest σ] {text : String} {terminator : Terminator}

/-- A text that has been copied lies in a span inside the memory, which is as
it was around the span. -/
theorem memory_of_writeText [LawfulGuest σ] {pointer length : UInt32}
    {guest left : σ}
    (fits : (terminator.encode text).length < wordCount 32)
    (copied : (Guest.writeText pointer text terminator).run.run guest =
      (.ok length, left)) :
    (Guest.memory guest).checkSpan pointer
        (terminator.encode text).length.toUInt32 = .ok () ∧
      Guest.memory left =
        (Guest.memory guest).write pointer.toNat (terminator.encode text) := by
  rw [run_writeText] at copied
  by_cases nothing : (terminator.encode text).length.toUInt32 = 0
  · rw [if_pos nothing] at copied
    cases copied
    rw [Terminator.encode_eq_nil fits nothing]
    exact ⟨(Memory.checkSpan_eq_ok_iff ..).mpr (.inl rfl), rfl⟩
  · rw [if_neg nothing] at copied
    cases checked : (Guest.memory guest).checkSpan pointer
        (terminator.encode text).length.toUInt32 with
    | error reason =>
        rw [checked] at copied
        cases copied
    | ok inside =>
        rw [checked] at copied
        rcases stored : (Guest.store pointer (terminator.encode text)).run.run
          guest with ⟨fault | done, after⟩
        · rw [stored] at copied
          cases copied
        · rw [stored] at copied
          cases copied
          exact ⟨rfl, LawfulGuest.memory_store stored⟩

/-- The only call for a block is the one that the string lies in. -/
theorem calls_of_writeString {ledger after : Ledger} {guest left : σ}
    {string : GuestString}
    (written : (writeString text terminator).perform ledger guest =
      (.ok string, after, left)) :
    (writeString text terminator).perform ledger
        (⟨guest, []⟩ : Recorded σ) =
      (.ok string, after,
        ⟨left, [.alloc (blockSize text) (some string.pointer)]⟩) := by
  obtain ⟨made, same⟩ :=
    Recorded.Mirrors.writeString text terminator ledger guest []
  have outcome := Recorded.writeString_outcome text terminator ledger guest []
  rw [written, List.nil_append] at same
  rw [same] at outcome ⊢
  cases outcome
  rfl

/-! ## One string -/

/-- What the copy of a text leaves in the memory that the guest had when it
gave the block out. -/
structure Copied (text : String) (terminator : Terminator)
    (string : GuestString) (before after : Memory) : Prop where
  length : string.length.toNat = byteLength text
  capacity : string.capacity.toNat = byteLength text + 1
  sameTerminator : string.terminator = terminator
  size : after.size = before.size
  /-- Only a text without bytes may lie outside. -/
  inside : terminator.encode text = [] ∨
    string.pointer.toNat + (terminator.encode text).length ≤ after.size
  bytes : after.read string.pointer.toNat (byteLength text) =
    Utf8.encode text
  ended : terminator = .nul →
    after.get (string.pointer.toNat + byteLength text) = 0
  others : ∀ place,
    place < string.pointer.toNat ∨
        string.pointer.toNat + (terminator.encode text).length ≤ place →
      after.get place = before.get place
  readCText : terminator = .nul →
    after.readCText string.pointer = .ok (upToNul text)

theorem copied_of_write {memory : Memory} {pointer : UInt32}
    (short : byteLength text + 1 < wordCount 32)
    (checked : memory.checkSpan pointer
      (terminator.encode text).length.toUInt32 = .ok ()) :
    Copied text terminator
      ⟨pointer, (byteLength text).toUInt32, blockSize text, terminator⟩
      memory (memory.write pointer.toNat (terminator.encode text)) := by
  have fits : (terminator.encode text).length < wordCount 32 :=
    (terminator.length_encode_le text).trans_lt short
  have length : (byteLength text).toUInt32.toNat = byteLength text :=
    toNat_toUInt32 (by omega)
  have inside : terminator.encode text = [] ∨
      pointer.toNat + (terminator.encode text).length ≤ memory.size := by
    rw [Memory.checkSpan_eq_ok_iff, toNat_toUInt32 fits] at checked
    exact checked.imp (Terminator.encode_eq_nil fits) And.right
  have read := Memory.readText_write fits checked
  refine
    { length
      capacity := toNat_blockSize short
      sameTerminator := rfl
      size := Memory.size_write ..
      inside := by rwa [Memory.size_write]
      bytes := ?_
      ended := ?_
      others := fun place outside => Memory.get_write_outside outside
      readCText := ?_ }
  · rw [Memory.readText_eq_ok_iff, length] at read
    exact read.2
  · rintro rfl
    have last : byteLength text < (Terminator.nul.encode text).length := by
      rw [Terminator.encode, List.length_append]
      exact Nat.lt_succ_self _
    rw [Memory.get_write_inside last]
    simp only [Terminator.encode, byteLength, List.getElem_concat_length]
  · rintro rfl
    apply Memory.readCText_write
    refine inside.resolve_left ?_
    exact List.append_ne_nil_of_right_ne_nil _ (List.cons_ne_nil _ _)

theorem readText_writeString [LawfulGuest σ] {ledger after : Ledger}
    {guest left : σ} {string : GuestString}
    (fits : (terminator.encode text).length < wordCount 32)
    (written : (writeString text terminator).perform ledger guest =
      (.ok string, after, left)) :
    (Guest.memory left).readText string.pointer string.length = .ok text := by
  obtain ⟨-, -, fields, allocated, length, asked, copied⟩ :=
    Client.writeString_eq_ok written
  obtain ⟨checked, same⟩ := memory_of_writeText fits copied
  rw [same, fields]
  exact Memory.readText_write fits checked

/-- Whatever block the guest gives out, a string that has been issued lies
there as its text, and the text is read back from it. -/
theorem writeString_readString [LawfulGuest σ] {ledger after : Ledger}
    {guest left : σ} {string : GuestString}
    (short : byteLength text + 1 < wordCount 32)
    (written : (writeString text terminator).perform ledger guest =
      (.ok string, after, left)) :
    ∃ allocated,
      (Guest.alloc string.capacity).run.run guest =
          (.ok string.pointer, allocated) ∧
        (writeString text terminator).perform ledger
            (⟨guest, []⟩ : Recorded σ) =
          (.ok string, after,
            ⟨left, [.alloc string.capacity (some string.pointer)]⟩) ∧
        Copied text terminator string (Guest.memory allocated)
          (Guest.memory left) ∧
        (readString string.pointer string.length).perform after left =
          (.ok text, after, left) := by
  have fits : (terminator.encode text).length < wordCount 32 :=
    (terminator.length_encode_le text).trans_lt short
  have calls := calls_of_writeString written
  have read := readText_writeString fits written
  obtain ⟨-, -, fields, allocated, length, asked, copied⟩ :=
    Client.writeString_eq_ok written
  obtain ⟨checked, same⟩ := memory_of_writeText fits copied
  generalize string.pointer = pointer at fields asked copied checked same
  subst fields
  refine ⟨allocated, asked, calls, ?_, ?_⟩
  · rw [same]
    exact copied_of_write short checked
  · rw [readString, perform_call, run_inspect, read]
    rfl

/-- A text with a character zero in it, in the last bytes of the memory. -/
def severed : String := "é\x00b"

def brink : Dispenser := ⟨.new 69 7, [64]⟩

theorem writeString_readString_severed :
    byteLength severed + 1 < wordCount 32 ∧
      ((writeString severed .nul).perform .empty brink).1 =
        .ok ⟨64, 4, 5, .nul⟩ ∧
      upToNul severed = "é" ∧
      ∃ allocated left : Dispenser,
        Copied severed .nul ⟨64, 4, 5, .nul⟩ allocated.memory left.memory := by
  have short : byteLength severed + 1 < wordCount 32 := by decide
  have issued : ((writeString severed .nul).perform .empty brink).1 =
      .ok ⟨64, 4, 5, .nul⟩ := by
    decide +kernel
  rcases written : (writeString severed .nul).perform .empty brink with
    ⟨result, after, left⟩
  rw [written] at issued
  subst issued
  obtain ⟨allocated, -, -, copied, -⟩ := writeString_readString short written
  exact ⟨short, rfl, by decide +kernel, allocated, left, copied⟩

end

end Exchange

end KeymapViewer
