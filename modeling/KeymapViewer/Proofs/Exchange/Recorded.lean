import KeymapViewer.Proofs.Exchange.Perform

/-!
Guests that are watched. A recorded guest behaves as the guest inside it and
keeps a list of the calls that concern blocks of its memory. The list never
changes what a step does: a step on the recorded guest is the step on the
guest inside, together with the calls it has made.
-/

namespace KeymapViewer

open Text

inductive GuestCall where
  /-- The pointer is the one returned; a failed call returns none. -/
  | alloc (size : UInt32) (pointer? : Option UInt32)
  | dealloc (pointer size : UInt32)
  | deallocText (pointer : UInt32)
  | enter (arguments : List UInt32)
  deriving DecidableEq, Repr

/-- A guest together with the calls made so far, the first one first. -/
structure Recorded (σ : Type) where
  guest : σ
  calls : List GuestCall

namespace Recorded

variable {σ α β : Type}

/-- Carries out a call of the guest inside and notes what `note` says about
its result. -/
def observe (step : Guest.Call σ α)
    (note : Except Fault α → List GuestCall) : Guest.Call (Recorded σ) α :=
  ExceptT.mk fun recorded =>
    let (result, guest) := step.run.run recorded.guest
    (result, ⟨guest, recorded.calls ++ note result⟩)

/-- Failed calls of the allocator are noted as well as successful ones. -/
instance [Guest σ] : Guest (Recorded σ) where
  memory recorded := Guest.memory recorded.guest
  store pointer bytes := observe (Guest.store pointer bytes) fun _ => []
  alloc size :=
    observe (Guest.alloc size) fun result => [.alloc size result.toOption]
  dealloc pointer size :=
    observe (Guest.dealloc pointer size) fun _ => [.dealloc pointer size]
  deallocText pointer :=
    observe (Guest.deallocText pointer) fun _ => [.deallocText pointer]

@[simp]
theorem run_observe
    (step : Guest.Call σ α) (note : Except Fault α → List GuestCall)
    (guest : σ) (calls : List GuestCall) :
    (observe step note).run.run ⟨guest, calls⟩ =
      ((step.run.run guest).1,
        ⟨(step.run.run guest).2, calls ++ note (step.run.run guest).1⟩) :=
  rfl

/-! ## Watching changes nothing -/

/-- A step on the recorded guest does what a step on the guest inside does,
and adds calls to the record. -/
def Mirrors (watched : Exchange (Recorded σ) α) (plain : Exchange σ α) :
    Prop :=
  ∀ ledger guest calls, ∃ made,
    watched.perform ledger ⟨guest, calls⟩ =
      ((plain.perform ledger guest).1, (plain.perform ledger guest).2.1,
        ⟨(plain.perform ledger guest).2.2, calls ++ made⟩)

namespace Mirrors

theorem pure (value : α) :
    Mirrors (Pure.pure value : Exchange (Recorded σ) α) (Pure.pure value) := by
  intro ledger guest calls
  exact ⟨[], by simp⟩

theorem throw (fault : Fault) :
    Mirrors (MonadExcept.throw fault : Exchange (Recorded σ) α)
      (MonadExcept.throw fault) := by
  intro ledger guest calls
  exact ⟨[], by simp⟩

theorem bind
    {first : Exchange (Recorded σ) α} {plainFirst : Exchange σ α}
    {next : α → Exchange (Recorded σ) β} {plainNext : α → Exchange σ β}
    (mirrorsFirst : Mirrors first plainFirst)
    (mirrorsNext : ∀ value, Mirrors (next value) (plainNext value)) :
    Mirrors (first >>= next) (plainFirst >>= plainNext) := by
  intro ledger guest calls
  obtain ⟨made, same⟩ := mirrorsFirst ledger guest calls
  simp only [Exchange.perform_bind, same]
  rcases plainFirst.perform ledger guest with ⟨fault | value, after, left⟩
  · exact ⟨made, rfl⟩
  · obtain ⟨more, sameNext⟩ := mirrorsNext value after left (calls ++ made)
    exact ⟨made ++ more, by simp only [sameNext, List.append_assoc]⟩

theorem map
    {step : Exchange (Recorded σ) α} {plain : Exchange σ α}
    (change : α → β) (mirrors : Mirrors step plain) :
    Mirrors (change <$> step) (change <$> plain) := by
  rw [map_eq_pure_bind, map_eq_pure_bind]
  exact mirrors.bind fun value => .pure (change value)

theorem tryCatch
    {step : Exchange (Recorded σ) α} {plain : Exchange σ α}
    {handle : Fault → Exchange (Recorded σ) α}
    {plainHandle : Fault → Exchange σ α}
    (mirrors : Mirrors step plain)
    (mirrorsHandle : ∀ fault, Mirrors (handle fault) (plainHandle fault)) :
    Mirrors (MonadExcept.tryCatch step handle)
      (MonadExcept.tryCatch plain plainHandle) := by
  intro ledger guest calls
  obtain ⟨made, same⟩ := mirrors ledger guest calls
  simp only [Exchange.perform_tryCatch, same]
  rcases plain.perform ledger guest with ⟨fault | value, after, left⟩
  · obtain ⟨more, sameNext⟩ := mirrorsHandle fault after left (calls ++ made)
    exact ⟨made ++ more, by simp only [sameNext, List.append_assoc]⟩
  · exact ⟨made, rfl⟩

theorem ite
    {condition : Prop} [Decidable condition]
    {yes no : Exchange (Recorded σ) α} {plainYes plainNo : Exchange σ α}
    (mirrorsYes : Mirrors yes plainYes) (mirrorsNo : Mirrors no plainNo) :
    Mirrors (if condition then yes else no)
      (if condition then plainYes else plainNo) := by
  split
  · exact mirrorsYes
  · exact mirrorsNo

theorem ledger :
    Mirrors (Exchange.ledger : Exchange (Recorded σ) Ledger)
      Exchange.ledger := by
  intro ledger guest calls
  exact ⟨[], by simp⟩

theorem update (change : Ledger → Ledger) :
    Mirrors (Exchange.update change : Exchange (Recorded σ) Unit)
      (Exchange.update change) := by
  intro ledger guest calls
  exact ⟨[], by simp⟩

theorem violate (violation : Ledger.Violation) :
    Mirrors (Exchange.violate violation : Exchange (Recorded σ) α)
      (Exchange.violate violation) :=
  .throw violation.fault

theorem observe
    (step : Guest.Call σ α) (note : Except Fault α → List GuestCall) :
    Mirrors (Exchange.call (Recorded.observe step note))
      (Exchange.call step) := by
  intro ledger guest calls
  exact ⟨note (step.run.run guest).1, rfl⟩

end Mirrors

section Steps

variable [Guest σ]

@[simp]
theorem run_store
    (pointer : UInt32) (bytes : Bytes) (guest : σ)
    (calls : List GuestCall) :
    (Guest.store pointer bytes : Guest.Call (Recorded σ) Unit).run.run
        ⟨guest, calls⟩ =
      (((Guest.store pointer bytes).run.run guest).1,
        ⟨((Guest.store pointer bytes).run.run guest).2, calls⟩) := by
  change (observe _ _).run.run _ = _
  rw [run_observe, List.append_nil]

@[simp]
theorem run_alloc
    (size : UInt32) (guest : σ) (calls : List GuestCall) :
    (Guest.alloc size : Guest.Call (Recorded σ) UInt32).run.run
        ⟨guest, calls⟩ =
      (((Guest.alloc size).run.run guest).1,
        ⟨((Guest.alloc size).run.run guest).2,
          calls ++
            [.alloc size ((Guest.alloc size).run.run guest).1.toOption]⟩) :=
  rfl

@[simp]
theorem run_dealloc
    (pointer size : UInt32) (guest : σ) (calls : List GuestCall) :
    (Guest.dealloc pointer size : Guest.Call (Recorded σ) Unit).run.run
        ⟨guest, calls⟩ =
      (((Guest.dealloc pointer size).run.run guest).1,
        ⟨((Guest.dealloc pointer size).run.run guest).2,
          calls ++ [.dealloc pointer size]⟩) :=
  rfl

@[simp]
theorem run_deallocText
    (pointer : UInt32) (guest : σ) (calls : List GuestCall) :
    (Guest.deallocText pointer : Guest.Call (Recorded σ) Unit).run.run
        ⟨guest, calls⟩ =
      (((Guest.deallocText pointer).run.run guest).1,
        ⟨((Guest.deallocText pointer).run.run guest).2,
          calls ++ [.deallocText pointer]⟩) :=
  rfl

theorem run_writeText
    (pointer : UInt32) (text : String) (terminator : Terminator)
    (guest : σ) (calls : List GuestCall) :
    (Guest.writeText pointer text terminator :
        Guest.Call (Recorded σ) UInt32).run.run ⟨guest, calls⟩ =
      (((Guest.writeText pointer text terminator :
          Guest.Call σ UInt32).run.run guest).1,
        ⟨((Guest.writeText pointer text terminator :
          Guest.Call σ UInt32).run.run guest).2, calls⟩) := by
  have memorySame :
      Guest.memory (⟨guest, calls⟩ : Recorded σ) = Guest.memory guest := rfl
  rw [Exchange.run_writeText, Exchange.run_writeText, memorySame, run_store]
  split
  · rfl
  · cases (Guest.memory guest).checkSpan pointer
        (terminator.encode text).length.toUInt32 with
    | error reason =>
        rfl
    | ok checked =>
        rcases (Guest.store pointer (terminator.encode text) :
            Guest.Call σ Unit).run.run guest with ⟨fault | stored, after⟩
        · rfl
        · rfl

namespace Mirrors

theorem inspect (look : Memory → Except SpanFault α) :
    Mirrors (Exchange.call (Guest.inspect look) : Exchange (Recorded σ) α)
      (Exchange.call (Guest.inspect look)) := by
  intro ledger guest calls
  refine ⟨[], ?_⟩
  simp only [Exchange.perform_call, Exchange.run_inspect, List.append_nil]
  rfl

theorem writeText
    (pointer : UInt32) (text : String) (terminator : Terminator) :
    Mirrors
      (Exchange.call (Guest.writeText pointer text terminator) :
        Exchange (Recorded σ) UInt32)
      (Exchange.call (Guest.writeText pointer text terminator)) := by
  intro ledger guest calls
  refine ⟨[], ?_⟩
  simp only [Exchange.perform_call, run_writeText, List.append_nil]

theorem writeString (text : String) (terminator : Terminator) :
    Mirrors
      (Exchange.writeString text terminator :
        Exchange (Recorded σ) GuestString)
      (Exchange.writeString text terminator) := by
  unfold Exchange.writeString
  refine .ite (.bind (.violate _) fun _ => ?_) ?_
  all_goals
    refine .bind (.observe _ _) fun pointer => .bind .ledger fun ledger => ?_
    refine .ite (.bind (.violate _) fun _ => ?_) ?_
  all_goals
    refine .bind (.tryCatch ?_ fun fault => ?_) fun _ => ?_
    · exact .bind (.writeText pointer text terminator) fun _ => .pure ()
    · exact .bind (.observe _ _) fun _ => .throw fault
    · exact .bind (.update _) fun _ => .pure _

theorem release (string : GuestString) :
    Mirrors (Exchange.release string : Exchange (Recorded σ) Unit)
      (Exchange.release string) := by
  unfold Exchange.release
  refine .bind .ledger fun ledger => .bind (.update _) fun _ => ?_
  have freed :
      Mirrors
        (do
          Exchange.call (Guest.dealloc string.pointer string.capacity)
          Exchange.update fun ledger =>
            { ledger with released := ledger.released + 1 } :
          Exchange (Recorded σ) Unit)
        (do
          Exchange.call (Guest.dealloc string.pointer string.capacity)
          Exchange.update fun ledger =>
            { ledger with released := ledger.released + 1 }) :=
    .bind (.observe _ _) fun _ => .update _
  cases ledger.capacity? string.pointer with
  | none =>
      exact .bind (.violate _) fun _ => freed
  | some capacity =>
      exact .ite (.bind (.violate _) fun _ => freed) freed

theorem takeCString (pointer : UInt32) :
    Mirrors (Exchange.takeCString pointer : Exchange (Recorded σ) String)
      (Exchange.takeCString pointer) := by
  unfold Exchange.takeCString
  refine .bind .ledger fun ledger => ?_
  refine .ite (.bind (.violate _) fun _ => ?_) ?_
  all_goals
    refine .bind (.inspect _) fun text => .bind ?_ fun _ => ?_
    · exact .tryCatch (.observe _ _) fun fault => .throw _
    · exact .bind (.update _) fun _ => .pure text

end Mirrors

end Steps

end Recorded

end KeymapViewer
