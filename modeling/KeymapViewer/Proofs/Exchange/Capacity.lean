import KeymapViewer.Proofs.Exchange.RoundTrip
import KeymapViewer.Proofs.Memory.Bounds

/-!
The sizes that go with a copied text. Its bytes, its block and the bytes that
are written are counted in words, after one look at the length; a single
length that passes is too long for the two counts that come after it.
-/

namespace KeymapViewer

open Text Wasm

/-- The bytes lie in the memory from a place on. -/
def Memory.HasBytes (memory : Memory) (place : Nat) (bytes : Bytes) : Prop :=
  memory.Covers place bytes.length ∧ memory.read place bytes.length = bytes

namespace Exchange

variable {σ : Type} [Guest σ] {text : String} {terminator : Terminator}

/-! ## What is asked for -/

/-- A text that is not too long asks for one block, and no other call is made
than one that gives it back. -/
theorem calls_writeString (short : byteLength text < wordCount 32)
    (terminator : Terminator) (ledger : Ledger) (guest : σ) :
    ∃ pointer? later,
      ((writeString text terminator).perform ledger
        (⟨guest, []⟩ : Recorded σ)).2.2.calls =
          .alloc (blockSize text) pointer? :: later ∧
        ∀ call ∈ later, ∃ pointer, call = .dealloc pointer (blockSize text) := by
  rw [perform_writeString, if_neg (Nat.not_le_of_lt short), Recorded.run_alloc]
  rcases (Guest.alloc (blockSize text)).run.run guest with
    ⟨fault | pointer, allocated⟩
  · exact ⟨_, [], rfl, fun _ member => absurd member List.not_mem_nil⟩
  simp only [Except.toOption]
  by_cases held : ledger.holds pointer = true
  · simp only [held, ↓reduceIte]
    exact ⟨_, [], rfl, fun _ member => absurd member List.not_mem_nil⟩
  simp only [held, Bool.false_eq_true, ↓reduceIte, Recorded.run_writeText]
  rcases (Guest.writeText pointer text terminator).run.run allocated with
    ⟨fault | length, filled⟩
  · simp only [Recorded.run_dealloc]
    rcases (Guest.dealloc pointer (blockSize text)).run.run filled with
      ⟨second | freed, after⟩
    · exact ⟨_, _, rfl, fun _ member =>
        ⟨pointer, List.mem_singleton.mp member⟩⟩
    · exact ⟨_, _, rfl, fun _ member =>
        ⟨pointer, List.mem_singleton.mp member⟩⟩
  · exact ⟨_, [], rfl, fun _ member => absurd member List.not_mem_nil⟩

theorem perform_writeString_of_tooLong (long : wordCount 32 ≤ byteLength text)
    (terminator : Terminator) (ledger : Ledger) (guest : σ) :
    (writeString text terminator).perform ledger guest =
      (.error (Ledger.Violation.tooLong (byteLength text)).fault, ledger,
        guest) := by
  rw [perform_writeString, if_pos long]

/-! ## What comes of it -/

theorem blockSize_eq_zero (limit : byteLength text + 1 = wordCount 32) :
    blockSize text = 0 := by
  change (byteLength text).toUInt32 + (1 : Nat).toUInt32 = 0
  rw [← toUInt32_add, limit]
  rfl

/-- With its zero byte, the text has as many bytes as there are words. -/
theorem length_encode_nul (text : String) :
    (Terminator.nul.encode text).length = byteLength text + 1 := by
  rw [Terminator.encode, List.length_append]
  rfl

/-- Nothing is written when the number of bytes counts as nothing. -/
theorem run_writeText_of_limit (limit : byteLength text + 1 = wordCount 32)
    (pointer : UInt32) (guest : σ) :
    (Guest.writeText pointer text .nul).run.run guest = (.ok 0, guest) := by
  have nothing : (Terminator.nul.encode text).length.toUInt32 = 0 := by
    rw [length_encode_nul, limit]
    rfl
  rw [run_writeText, if_pos nothing]

theorem hasBytes_of_writeString [LawfulGuest σ] {ledger after : Ledger}
    {guest left : σ} {string : GuestString}
    (fits : (terminator.encode text).length < wordCount 32)
    (written : (writeString text terminator).perform ledger guest =
      (.ok string, after, left)) :
    (Guest.memory left).HasBytes string.pointer.toNat
      (terminator.encode text) := by
  obtain ⟨-, -, -, allocated, length, -, copied⟩ :=
    Client.writeString_eq_ok written
  obtain ⟨checked, same⟩ := memory_of_writeText fits copied
  rw [Memory.checkSpan_eq_ok_iff, toNat_toUInt32 fits] at checked
  rw [same]
  refine ⟨?_, Memory.read_write_self ..⟩
  rw [Memory.Covers, Memory.size_write]
  refine checked.imp (fun nothing => ?_) And.right
  rw [Terminator.encode_eq_nil fits nothing]
  rfl

/-- The sizes that go with a copy are right: too long a text is refused
without a call, any other one asks once, for a byte more than it has, and what
has been copied is all there. -/
structure IsSized (text : String) (terminator : Terminator) (ledger : Ledger)
    (guest : σ) : Prop where
  asked :
    (writeString text terminator).perform ledger
        (⟨guest, []⟩ : Recorded σ) =
      (.error (Ledger.Violation.tooLong (byteLength text)).fault, ledger,
        ⟨guest, []⟩) ∨
    byteLength text + 1 < wordCount 32 ∧
      ∃ size pointer? later,
        ((writeString text terminator).perform ledger
          (⟨guest, []⟩ : Recorded σ)).2.2.calls =
            .alloc size pointer? :: later ∧
          size.toNat = byteLength text + 1 ∧
          ∀ call ∈ later, ∃ pointer, call = .dealloc pointer size
  copied : ∀ string after left,
    (writeString text terminator).perform ledger guest =
        (.ok string, after, left) →
      (Guest.memory left).HasBytes string.pointer.toNat
        (terminator.encode text)

/-- The sizes have run over: the text asks for no byte, and with a zero byte
it is issued as it is, though nothing has been written. -/
structure RunsOver (text : String) (ledger : Ledger) (guest : σ) : Prop where
  asked : ∀ terminator, ∃ pointer? later,
    ((writeString text terminator).perform ledger
      (⟨guest, []⟩ : Recorded σ)).2.2.calls = .alloc 0 pointer? :: later
  issued : ∀ string after left,
    (writeString text .nul).perform ledger guest =
        (.ok string, after, left) →
      string.capacity = 0 ∧
        (Guest.alloc 0).run.run guest = (.ok string.pointer, left)

theorem IsSized.of_short [LawfulGuest σ]
    (short : byteLength text + 1 < wordCount 32) (terminator : Terminator)
    (ledger : Ledger) (guest : σ) : IsSized text terminator ledger guest := by
  have fits : (terminator.encode text).length < wordCount 32 :=
    (terminator.length_encode_le text).trans_lt short
  obtain ⟨pointer?, later, calls, freed⟩ := calls_writeString
    ((Nat.lt_succ_self _).trans short) terminator ledger guest
  exact ⟨.inr ⟨short, blockSize text, pointer?, later, calls,
    toNat_blockSize short, freed⟩, fun _ _ _ => hasBytes_of_writeString fits⟩

theorem IsSized.of_long (long : wordCount 32 ≤ byteLength text)
    (terminator : Terminator) (ledger : Ledger) (guest : σ) :
    IsSized text terminator ledger guest := by
  refine ⟨.inl (perform_writeString_of_tooLong long ..), ?_⟩
  intro string after left written
  rw [perform_writeString_of_tooLong long] at written
  cases written

theorem RunsOver.of_limit (limit : byteLength text + 1 = wordCount 32)
    (ledger : Ledger) (guest : σ) : RunsOver text ledger guest := by
  refine ⟨fun terminator => ?_, fun string after left written => ?_⟩
  · have short : byteLength text < wordCount 32 := by omega
    obtain ⟨pointer?, later, calls, -⟩ :=
      calls_writeString short terminator ledger guest
    rw [blockSize_eq_zero limit] at calls
    exact ⟨pointer?, later, calls⟩
  · obtain ⟨-, -, fields, allocated, length, asked, copied⟩ :=
      Client.writeString_eq_ok written
    rw [run_writeText_of_limit limit] at copied
    cases copied
    rw [blockSize_eq_zero limit] at asked fields
    rw [fields]
    exact ⟨rfl, asked⟩

theorem RunsOver.not_isSized {ledger : Ledger} {guest : σ}
    (wrapped : RunsOver text ledger guest)
    (limit : byteLength text + 1 = wordCount 32) :
    ¬ IsSized text terminator ledger guest := by
  intro sized
  obtain ⟨pointer?, later, calls⟩ := wrapped.asked terminator
  rcases sized.asked with refused | ⟨short, -⟩
  · rw [refused] at calls
    cases calls
  · exact short.ne limit

/-- The sizes are right for every text but those of `2 ^ 32 - 1` bytes, for
which they run over. -/
theorem isSized_iff [LawfulGuest σ] (text : String) (terminator : Terminator)
    (ledger : Ledger) (guest : σ) :
    (IsSized text terminator ledger guest ↔
        byteLength text + 1 ≠ wordCount 32) ∧
      (byteLength text + 1 = wordCount 32 → RunsOver text ledger guest) := by
  refine ⟨⟨fun sized limit => ?_, fun other => ?_⟩, fun limit => ?_⟩
  · exact (RunsOver.of_limit limit ledger guest).not_isSized limit sized
  · rcases Nat.lt_or_gt_of_ne other with short | long
    · exact .of_short short terminator ledger guest
    · exact .of_long (Nat.lt_succ_iff.mp long) terminator ledger guest
  · exact .of_limit limit ledger guest

theorem isSized_severed :
    LawfulGuest Dispenser ∧
      IsSized severed .nul .empty brink ∧
      byteLength severed + 1 ≠ wordCount 32 := by
  have short : byteLength severed + 1 ≠ wordCount 32 := by
    decide
  exact ⟨inferInstance, (isSized_iff severed .nul .empty brink).1.mpr short,
    short⟩

/-! ## The longest text that is not refused -/

/-- A text of `2 ^ 32 - 1` letters. -/
def longest : String := String.ofList (List.replicate (wordCount 32 - 1) 'k')

theorem byteLength_replicate (count : Nat) :
    byteLength (String.ofList (List.replicate count 'k')) = count := by
  rw [byteLength, Utf8.encode, String.toList_ofList]
  induction count with
  | zero =>
      rfl
  | succ count inductionHypothesis =>
      rw [List.replicate_succ, Utf8.encodeChars_cons, List.length_append,
        inductionHypothesis, Nat.add_comm]
      rfl

theorem limit_longest : byteLength longest + 1 = wordCount 32 := by
  rw [longest, byteLength_replicate]
  exact Nat.sub_add_cancel (wordCount_pos 32)

/-- It is issued with a block of no bytes, and not one of its letters has been
written there. -/
theorem not_isSized_longest :
    ¬ IsSized longest .nul .empty brink ∧
      (writeString longest .nul).perform .empty
          (⟨brink, []⟩ : Recorded Dispenser) =
        (.ok ⟨64, 4294967295, 0, .nul⟩, .record .empty 64 0,
          ⟨⟨brink.memory, []⟩, [.alloc 0 (some 64)]⟩) ∧
      brink.memory.get 64 ≠ 107 := by
  have limit := limit_longest
  have length : (byteLength longest).toUInt32 = 4294967295 := by
    rw [Nat.eq_sub_of_add_eq limit]
    rfl
  have short : ¬ wordCount 32 ≤ byteLength longest := by
    omega
  refine ⟨(RunsOver.of_limit limit .empty brink).not_isSized limit, ?_, ?_⟩
  · rw [perform_writeString, if_neg short, blockSize_eq_zero limit, length]
    simp only [run_writeText_of_limit limit]
    rfl
  · simp [brink, Memory.new, Memory.get]

end Exchange

end KeymapViewer
