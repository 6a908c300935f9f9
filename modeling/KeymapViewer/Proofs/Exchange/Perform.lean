import KeymapViewer.Ledger
import Mathlib.Tactic.Common

/-!
Carrying out steps. A step is a function of the ledger and the guest it finds,
and a step that is built from others is the composition of theirs.
-/

namespace KeymapViewer.Exchange

open Text

variable {σ α β : Type}

/-! ## Building blocks -/

@[simp]
theorem perform_pure (value : α) (ledger : Ledger) (guest : σ) :
    (pure value : Exchange σ α).perform ledger guest =
      (.ok value, ledger, guest) :=
  rfl

@[simp]
theorem perform_throw (fault : Fault) (ledger : Ledger) (guest : σ) :
    (throw fault : Exchange σ α).perform ledger guest =
      (.error fault, ledger, guest) :=
  rfl

/-- A step goes on with the value of the step before it, and ends with its
fault. -/
@[simp]
theorem perform_bind
    (first : Exchange σ α) (next : α → Exchange σ β)
    (ledger : Ledger) (guest : σ) :
    (first >>= next).perform ledger guest =
      match first.perform ledger guest with
      | (.ok value, ledger, guest) => (next value).perform ledger guest
      | (.error fault, ledger, guest) => (.error fault, ledger, guest) := by
  simp only [perform, ExceptT.run_bind, StateT.run_bind]
  rcases first.run.run (ledger, guest) with ⟨fault | value, after⟩
  · rfl
  · rfl

@[simp]
theorem perform_map
    (change : α → β) (step : Exchange σ α) (ledger : Ledger) (guest : σ) :
    (change <$> step).perform ledger guest =
      match step.perform ledger guest with
      | (.ok value, ledger, guest) => (.ok (change value), ledger, guest)
      | (.error fault, ledger, guest) => (.error fault, ledger, guest) := by
  rw [map_eq_pure_bind, perform_bind]
  rfl

/-- What handles a fault finds the ledger and the guest that the failed step
has left. -/
@[simp]
theorem perform_tryCatch
    (step : Exchange σ α) (handle : Fault → Exchange σ α)
    (ledger : Ledger) (guest : σ) :
    (tryCatch step handle).perform ledger guest =
      match step.perform ledger guest with
      | (.ok value, ledger, guest) => (.ok value, ledger, guest)
      | (.error fault, ledger, guest) =>
        (handle fault).perform ledger guest := by
  simp only [perform, tryCatch, tryCatchThe, MonadExceptOf.tryCatch,
    ExceptT.tryCatch, ExceptT.run, ExceptT.mk, StateT.run_bind]
  rcases StateT.run step (ledger, guest) with ⟨fault | value, after⟩
  · rfl
  · rfl

@[simp]
theorem perform_ite
    (condition : Prop) [Decidable condition] (yes no : Exchange σ α)
    (ledger : Ledger) (guest : σ) :
    (if condition then yes else no).perform ledger guest =
      if condition then yes.perform ledger guest
      else no.perform ledger guest := by
  split
  · rfl
  · rfl

@[simp]
theorem perform_ledger (ledger : Ledger) (guest : σ) :
    (Exchange.ledger : Exchange σ Ledger).perform ledger guest =
      (.ok ledger, ledger, guest) :=
  rfl

@[simp]
theorem perform_update
    (change : Ledger → Ledger) (ledger : Ledger) (guest : σ) :
    (update change : Exchange σ Unit).perform ledger guest =
      (.ok (), change ledger, guest) :=
  rfl

@[simp]
theorem perform_violate
    (violation : Ledger.Violation) (ledger : Ledger) (guest : σ) :
    (violate violation : Exchange σ α).perform ledger guest =
      (.error violation.fault, ledger, guest) :=
  rfl

@[simp]
theorem perform_call
    (step : Guest.Call σ α) (ledger : Ledger) (guest : σ) :
    (call step).perform ledger guest =
      ((step.run.run guest).1, ledger, (step.run.run guest).2) :=
  rfl

/-! ## Calls of a guest -/

section Calls

theorem run_bind
    (first : Guest.Call σ α) (next : α → Guest.Call σ β) (guest : σ) :
    (first >>= next).run.run guest =
      match first.run.run guest with
      | (.ok value, guest) => (next value).run.run guest
      | (.error fault, guest) => (.error fault, guest) := by
  simp only [ExceptT.run_bind, StateT.run_bind]
  rcases first.run.run guest with ⟨fault | value, after⟩
  · rfl
  · rfl

variable [Guest σ]

theorem run_inspect
    (look : Memory → Except SpanFault α) (guest : σ) :
    (Guest.inspect look : Guest.Call σ α).run.run guest =
      ((look (Guest.memory guest)).mapError SpanFault.fault, guest) := by
  have looked :
      (get : Guest.Call σ σ).run.run guest = (.ok guest, guest) :=
    rfl
  simp only [Guest.inspect, run_bind, looked]
  cases look (Guest.memory guest) with
  | error reason =>
      rfl
  | ok value =>
      rfl

/-- A text is put into memory in one piece, once its span has been checked;
nothing happens for a text without bytes. -/
theorem run_writeText
    (pointer : UInt32) (text : String) (terminator : Terminator)
    (guest : σ) :
    (Guest.writeText pointer text terminator : Guest.Call σ UInt32).run.run
        guest =
      if (terminator.encode text).length.toUInt32 = 0 then (.ok 0, guest)
      else
        match (Guest.memory guest).checkSpan pointer
          (terminator.encode text).length.toUInt32 with
        | .error reason => (.error reason.fault, guest)
        | .ok () =>
          match (Guest.store pointer (terminator.encode text)).run.run
            guest with
          | (.ok _, guest) =>
            (.ok (terminator.encode text).length.toUInt32, guest)
          | (.error fault, guest) => (.error fault, guest) := by
  unfold Guest.writeText
  by_cases nothing : (terminator.encode text).length.toUInt32 = 0
  · simp only [nothing, ↓reduceIte]
    rfl
  · simp only [nothing, ↓reduceIte, run_bind, run_inspect]
    cases (Guest.memory guest).checkSpan pointer
        (terminator.encode text).length.toUInt32 with
    | error reason =>
        rfl
    | ok checked =>
        simp only [Except.mapError]
        rcases (Guest.store pointer (terminator.encode text)).run.run guest
          with ⟨fault | stored, after⟩
        · rfl
        · rfl

end Calls

/-! ## Steps with strings -/

section Strings

variable [Guest σ]

/-- The size of the block that a text is copied into. -/
def blockSize (text : String) : UInt32 := (byteLength text).toUInt32 + 1

/-- A text is written in three calls at most. A block that cannot be filled
goes straight back, and a failure of that call is the one told. -/
theorem perform_writeString
    (text : String) (terminator : Terminator) (ledger : Ledger)
    (guest : σ) :
    (writeString text terminator).perform ledger guest =
      if wordCount 32 ≤ byteLength text then
        (.error (Ledger.Violation.tooLong (byteLength text)).fault, ledger,
          guest)
      else
        match (Guest.alloc (blockSize text)).run.run guest with
        | (.error fault, guest) => (.error fault, ledger, guest)
        | (.ok pointer, guest) =>
          if ledger.holds pointer then
            (.error (Ledger.Violation.stillInUse pointer).fault, ledger,
              guest)
          else
            match (Guest.writeText pointer text terminator).run.run guest with
            | (.ok _, guest) =>
              (.ok ⟨pointer, (byteLength text).toUInt32, blockSize text,
                terminator⟩, ledger.record pointer (blockSize text), guest)
            | (.error fault, guest) =>
              match (Guest.dealloc pointer (blockSize text)).run.run guest with
              | (.ok (), guest) => (.error fault, ledger, guest)
              | (.error second, guest) => (.error second, ledger, guest) := by
  unfold writeString
  by_cases tooLong : wordCount 32 ≤ byteLength text
  · simp only [tooLong, ↓reduceIte, perform_bind, perform_violate]
  simp only [tooLong, ↓reduceIte, perform_bind, perform_call, blockSize]
  rcases (Guest.alloc ((byteLength text).toUInt32 + 1)).run.run guest with
    ⟨fault | pointer, allocated⟩
  · rfl
  simp only [perform_ledger, perform_ite, perform_bind, perform_violate]
  by_cases held : ledger.holds pointer = true
  · simp only [held, ↓reduceIte]
  simp only [held, Bool.false_eq_true, ↓reduceIte, perform_tryCatch,
    perform_bind, perform_call]
  rcases (Guest.writeText pointer text terminator).run.run allocated with
    ⟨fault | length, filled⟩
  · simp only
    rcases (Guest.dealloc pointer
        ((byteLength text).toUInt32 + 1)).run.run filled with
      ⟨second | freed, after⟩
    · rfl
    · rfl
  · rfl

/-- A string is given back with one call, and only if the ledger has its
pointer with its capacity. The pointer is forgotten in any case. -/
theorem perform_release
    (string : GuestString) (ledger : Ledger) (guest : σ) :
    (release string).perform ledger guest =
      match ledger.capacity? string.pointer with
      | none =>
        (.error (Ledger.Violation.alreadyReleased string.pointer).fault,
          ledger.forget string.pointer, guest)
      | some capacity =>
        if capacity ≠ string.capacity then
          (.error (Ledger.Violation.wrongCapacity string.pointer
            string.capacity capacity).fault, ledger.forget string.pointer,
            guest)
        else
          match (Guest.dealloc string.pointer string.capacity).run.run
            guest with
          | (.error fault, guest) =>
            (.error fault, ledger.forget string.pointer, guest)
          | (.ok (), guest) =>
            (.ok (), { ledger.forget string.pointer with
              released := ledger.released + 1 }, guest) := by
  unfold release
  simp only [perform_bind, perform_ledger, perform_update]
  cases ledger.capacity? string.pointer with
  | none =>
      simp only [perform_bind, perform_violate]
  | some capacity =>
      simp only [perform_ite, perform_bind, perform_violate]
      split
      · rfl
      · simp only [perform_call]
        rcases (Guest.dealloc string.pointer string.capacity).run.run
          guest with ⟨fault | freed, after⟩
        · rfl
        · rfl

/-- A text that the guest hands over is freed with one call, once it could be
read, and never if the host holds its pointer. -/
theorem perform_takeCString
    (pointer : UInt32) (ledger : Ledger) (guest : σ) :
    (takeCString pointer).perform ledger guest =
      if ledger.holds pointer then
        (.error (Ledger.Violation.hostOwned pointer).fault, ledger, guest)
      else
        match (Guest.memory guest).readCText pointer with
        | .error reason => (.error reason.fault, ledger, guest)
        | .ok text =>
          match (Guest.deallocText pointer).run.run guest with
          | (.error fault, guest) =>
            (.error (fault.withDetail .pointer (toString pointer)), ledger,
              guest)
          | (.ok (), guest) =>
            (.ok text, { ledger with consumed := ledger.consumed + 1 },
              guest) := by
  unfold takeCString
  simp only [perform_bind, perform_ledger, perform_ite, perform_violate,
    perform_call, run_inspect]
  split
  · rfl
  · cases (Guest.memory guest).readCText pointer with
    | error reason =>
        rfl
    | ok text =>
        simp only [Except.mapError, perform_tryCatch, perform_call]
        rcases (Guest.deallocText pointer).run.run guest with
          ⟨fault | freed, after⟩
        · rfl
        · rfl

end Strings

end KeymapViewer.Exchange
