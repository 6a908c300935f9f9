import KeymapViewer.Proofs.Exchange.Recorded

/-!
Custody of the blocks that a guest hands out. The calls of a record show which
blocks the host owes the guest, and each step on a recorded guest makes one of
a few lists of calls.
-/

namespace KeymapViewer

open Text Exchange

namespace GuestCall

/-- The pointers that the host holds after a call: an allocated block is held
until a call tries to free it. -/
def hold (held : List UInt32) : GuestCall → List UInt32
  | .alloc _ (some pointer) => pointer :: held
  | .dealloc pointer _ => held.filter (· != pointer)
  | _ => held

/-- Whether a call tries to free the block at a pointer. -/
def frees (pointer : UInt32) : GuestCall → Bool
  | .dealloc freed _ => freed == pointer
  | _ => false

/-- The size that a call asks the allocator for. -/
def request? : GuestCall → Option Nat
  | .alloc size _ => some size.toNat
  | _ => none

/-- One call, and only one, tries to free the block at a pointer, and it gives
the size of the block. -/
def FreedOnce (pointer size : UInt32) (calls : List GuestCall) : Prop :=
  calls.countP (frees pointer) = 1 ∧ .dealloc pointer size ∈ calls

/-- Every block that the guest hands out at a pointer which the host does not
hold is freed once by the calls after it. -/
def GivesBack (held : List UInt32) : List GuestCall → Prop
  | [] => True
  | call :: later =>
      (∀ size pointer, call = .alloc size (some pointer) → pointer ∉ held →
        FreedOnce pointer size later) ∧
      GivesBack (call.hold held) later

instance (pointer size : UInt32) (calls : List GuestCall) :
    Decidable (FreedOnce pointer size calls) :=
  inferInstanceAs (Decidable (_ ∧ _))

end GuestCall

namespace Ledger

def pointers (ledger : Ledger) : List UInt32 := ledger.live.map (·.1)

theorem holds_iff_mem_pointers (ledger : Ledger) (pointer : UInt32) :
    ledger.holds pointer = true ↔ pointer ∈ ledger.pointers := by
  unfold holds capacity? pointers
  induction ledger.live with
  | nil =>
      simp
  | cons entry rest inductionHypothesis =>
      obtain ⟨first, size⟩ := entry
      by_cases same : pointer = first
      · simp [same]
      · have differs : (pointer == first) = false :=
          beq_eq_false_iff_ne.mpr same
        simp only [List.lookup_cons, differs, List.map_cons, List.mem_cons,
          same, false_or]
        exact inductionHypothesis

end Ledger

/-- No size wraps for a text of at most `2 ^ 32 - 2` bytes. -/
theorem toNat_blockSize {text : String}
    (short : byteLength text + 1 < wordCount 32) :
    (blockSize text).toNat = byteLength text + 1 := by
  have limit : wordCount 32 = 4294967296 := by decide
  have lengthSame :
      (byteLength text).toUInt32.toNat = byteLength text := by
    rw [Nat.toUInt32, UInt32.toNat_ofNat']
    omega
  rw [blockSize, UInt32.toNat_add, lengthSame, UInt32.toNat_one]
  omega

namespace Recorded

variable {σ : Type} [Guest σ]

/-- What writing a text leads to: it is too long to ask for a block, the
allocator fails, its block is in use already, the copy fails and the block
goes straight back, or the text is in place and the ledger knows its block. -/
inductive WriteOutcome (text : String) (ledger : Ledger)
    (calls : List GuestCall) :
    Except Fault GuestString × Ledger × Recorded σ → Prop
  | tooLong (fault : Fault) (guest : σ) :
      WriteOutcome text ledger calls (.error fault, ledger, ⟨guest, calls⟩)
  | refused (fault : Fault) (guest : σ) :
      WriteOutcome text ledger calls
        (.error fault, ledger,
          ⟨guest, calls ++ [.alloc (blockSize text) none]⟩)
  | inUse (fault : Fault) (guest : σ) (pointer : UInt32)
      (held : pointer ∈ ledger.pointers) :
      WriteOutcome text ledger calls
        (.error fault, ledger,
          ⟨guest, calls ++ [.alloc (blockSize text) (some pointer)]⟩)
  | spoiled (fault : Fault) (guest : σ) (pointer : UInt32)
      (fresh : pointer ∉ ledger.pointers) :
      WriteOutcome text ledger calls
        (.error fault, ledger,
          ⟨guest, calls ++ [.alloc (blockSize text) (some pointer),
            .dealloc pointer (blockSize text)]⟩)
  | written (string : GuestString) (guest : σ)
      (fresh : string.pointer ∉ ledger.pointers)
      (sized : string.capacity = blockSize text) :
      WriteOutcome text ledger calls
        (.ok string, ledger.record string.pointer string.capacity,
          ⟨guest, calls ++ [.alloc (blockSize text) (some string.pointer)]⟩)

theorem writeString_outcome
    (text : String) (terminator : Terminator) (ledger : Ledger) (guest : σ)
    (calls : List GuestCall) :
    WriteOutcome text ledger calls
      ((writeString text terminator).perform ledger
        (⟨guest, calls⟩ : Recorded σ)) := by
  by_cases tooLong : wordCount 32 ≤ byteLength text
  · simp only [perform_writeString, tooLong, ↓reduceIte]
    exact .tooLong _ guest
  simp only [perform_writeString, tooLong, ↓reduceIte, run_alloc]
  rcases (Guest.alloc (blockSize text)).run.run guest with
    ⟨fault | pointer, allocated⟩
  · exact .refused fault allocated
  simp only [Except.toOption]
  by_cases held : ledger.holds pointer = true
  · simp only [held, ↓reduceIte]
    exact .inUse _ allocated pointer
      ((ledger.holds_iff_mem_pointers pointer).mp held)
  have fresh : pointer ∉ ledger.pointers :=
    fun member => held ((ledger.holds_iff_mem_pointers pointer).mpr member)
  simp only [held, Bool.false_eq_true, ↓reduceIte, run_writeText]
  rcases (Guest.writeText pointer text terminator).run.run allocated with
    ⟨fault | length, filled⟩
  · simp only [run_dealloc, List.append_assoc, List.cons_append,
      List.nil_append]
    rcases (Guest.dealloc pointer (blockSize text)).run.run filled with
      ⟨second | freed, after⟩
    · exact .spoiled second after pointer fresh
    · exact .spoiled fault after pointer fresh
  · exact .written
      ⟨pointer, (byteLength text).toUInt32, blockSize text, terminator⟩
      filled fresh rfl

/-- A string in the ledger goes back with one call, and the ledger forgets
it whatever that call returns. -/
theorem release_outcome
    {string : GuestString} {ledger : Ledger}
    (known : ledger.capacity? string.pointer = some string.capacity)
    (guest : σ) (calls : List GuestCall) :
    ∃ result after left,
      (release string).perform ledger (⟨guest, calls⟩ : Recorded σ) =
        (result, after,
          ⟨left, calls ++ [.dealloc string.pointer string.capacity]⟩) ∧
      after.live = (ledger.forget string.pointer).live := by
  simp only [perform_release, known, ne_eq, not_true_eq_false, ↓reduceIte,
    run_dealloc]
  rcases (Guest.dealloc string.pointer string.capacity).run.run guest with
    ⟨fault | freed, left⟩
  · exact ⟨_, _, left, rfl, rfl⟩
  · exact ⟨_, _, left, rfl, rfl⟩

/-- Taking a text over makes at most one call, and the blocks that the host
owes stay the same. -/
theorem takeCString_outcome
    (pointer : UInt32) (ledger : Ledger) (guest : σ)
    (calls : List GuestCall) :
    ∃ result after left made,
      (takeCString pointer).perform ledger (⟨guest, calls⟩ : Recorded σ) =
        (result, after, ⟨left, calls ++ made⟩) ∧
      after.live = ledger.live ∧
      (made = [] ∨ made = [.deallocText pointer]) := by
  have memorySame :
      Guest.memory (⟨guest, calls⟩ : Recorded σ) = Guest.memory guest := rfl
  simp only [perform_takeCString, memorySame, run_deallocText]
  by_cases held : ledger.holds pointer = true
  · simp only [held, ↓reduceIte]
    exact ⟨_, ledger, guest, [], by rw [List.append_nil], rfl, .inl rfl⟩
  simp only [held, Bool.false_eq_true, ↓reduceIte]
  rcases (Guest.memory guest).readCText pointer with reason | text
  · exact ⟨_, ledger, guest, [], by rw [List.append_nil], rfl, .inl rfl⟩
  rcases (Guest.deallocText pointer).run.run guest with
    ⟨fault | freed, left⟩
  · exact ⟨_, ledger, left, _, rfl, rfl, .inr rfl⟩
  · exact ⟨_, _, left, _, rfl, rfl, .inr rfl⟩

end Recorded

end KeymapViewer
