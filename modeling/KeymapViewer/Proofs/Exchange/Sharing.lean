import KeymapViewer.Proofs.Exchange.Dealings

/-!
Ledgers that share a guest. A string does not tell which ledger has issued it,
so it can be given back to any of them. A ledger drops the block at the
pointer of a string before it compares the sizes, and a string that it turns
down can therefore cost another string its block.
-/

namespace KeymapViewer

open Text

namespace Ledger

/-! ## Forgotten pointers -/

theorem capacity?_forget (ledger : Ledger) (pointer : UInt32) :
    (ledger.forget pointer).capacity? pointer = none := by
  unfold forget capacity?
  refine List.lookup_eq_none_iff.mpr fun entry member => ?_
  have differs := (List.mem_filter.mp member).2
  rw [bne_comm] at differs
  exact differs

theorem forget_of_unknown {ledger : Ledger} {pointer : UInt32}
    (unknown : ledger.capacity? pointer = none) :
    ledger.forget pointer = ledger := by
  have others : ledger.live.filter (·.1 != pointer) = ledger.live := by
    refine List.filter_eq_self.mpr fun entry member => ?_
    have differs := List.lookup_eq_none_iff.mp unknown entry member
    rw [bne_comm] at differs
    exact differs
  rw [forget, others]

theorem capacity?_record (ledger : Ledger) (pointer capacity other : UInt32) :
    (ledger.record pointer capacity).capacity? other =
      if other = pointer then some capacity else ledger.capacity? other := by
  unfold record capacity?
  rw [List.lookup_cons]
  by_cases same : other = pointer
  · simp only [same, beq_self_eq_true, ↓reduceIte]
  · simp only [beq_eq_false_iff_ne.mpr same, same, ↓reduceIte]

/-- What a ledger has after a step, it had before. -/
def Within (after before : Ledger) : Prop :=
  ∀ pointer capacity, after.capacity? pointer = some capacity →
    before.capacity? pointer = some capacity

theorem Within.of_live {after before : Ledger}
    (live : after.live = before.live) : after.Within before := by
  intro pointer capacity found
  rw [capacity?, live] at found
  exact found

theorem Within.forget (ledger : Ledger) (pointer : UInt32) :
    (ledger.forget pointer).Within ledger := by
  intro other capacity found
  by_cases same : other = pointer
  · subst same
    rw [capacity?_forget] at found
    cases found
  · rwa [capacity?_forget_of_ne same] at found

/-- Why a ledger turns a string down, if it does. -/
def refusal? (ledger : Ledger) (string : GuestString) : Option Violation :=
  match ledger.capacity? string.pointer with
  | none => some (.alreadyReleased string.pointer)
  | some recorded =>
    if recorded ≠ string.capacity then
      some (.wrongCapacity string.pointer string.capacity recorded)
    else
      none

theorem known_of_refusal?_eq_none {ledger : Ledger} {string : GuestString}
    (accepted : ledger.refusal? string = none) :
    ledger.capacity? string.pointer = some string.capacity := by
  unfold refusal? at accepted
  split at accepted
  · cases accepted
  · next found =>
      split at accepted
      · cases accepted
      · next same => rw [found, not_ne_iff.mp same]

end Ledger

namespace Exchange

section Releases

variable {σ : Type} [Guest σ]

/-- A string that is turned down reaches no guest, and counts nowhere. All
the same its pointer is forgotten. -/
theorem perform_release_of_refusal
    {string : GuestString} {ledger : Ledger} {violation : Ledger.Violation}
    (refused : ledger.refusal? string = some violation) (guest : σ) :
    (release string).perform ledger guest =
      (.error violation.fault, ledger.forget string.pointer, guest) := by
  rw [perform_release]
  unfold Ledger.refusal? at refused
  cases recorded : ledger.capacity? string.pointer with
  | none =>
      simp only [recorded] at refused
      injection refused with same
      subst same
      rfl
  | some capacity =>
      simp only [recorded] at refused
      split at refused
      · next differs =>
          injection refused with same
          subst same
          simp only [if_pos differs]
      · cases refused

theorem within_release (string : GuestString) (ledger : Ledger) (guest : σ) :
    ((release string).perform ledger guest).2.1.Within ledger := by
  cases refused : ledger.refusal? string with
  | some violation =>
      rw [perform_release_of_refusal refused]
      exact .forget ledger string.pointer
  | none =>
      obtain ⟨after, performed, live⟩ :=
        Client.perform_release_of_known
          (Ledger.known_of_refusal?_eq_none refused) guest
      rw [performed]
      intro pointer capacity found
      exact Ledger.Within.forget ledger string.pointer pointer capacity
        (Ledger.Within.of_live live pointer capacity found)

end Releases

/-! ## Ledgers that share a guest -/

/-- A string, and which ledger has issued it. -/
structure Issue (count : Nat) where
  place : Fin count
  string : GuestString
  deriving DecidableEq, Repr

/-- What is done with the strings of a guest. A string that goes back is named
by its number among those in hand, and any ledger may get it. -/
inductive Deal (count : Nat) where
  | write (place : Fin count) (text : String) (terminator : Terminator)
  | release (place : Fin count) (number : Nat)
  | read (place : Fin count) (pointer length : UInt32)
  | take (place : Fin count) (pointer : UInt32)
  deriving DecidableEq, Repr

structure Sharing (σ : Type) (count : Nat) where
  ledgers : Fin count → Ledger
  guest : σ
  /-- The strings that no ledger was given yet. -/
  inHand : List (Issue count)
  /-- All strings that were ever issued. -/
  issues : List (Issue count)

namespace Sharing

def new {σ : Type} (count : Nat) (guest : σ) : Sharing σ count :=
  ⟨fun _ => .empty, guest, [], []⟩

section

variable {σ α : Type} {count : Nat}

/-- Carries out a step on one of the ledgers. -/
def exchange (sharing : Sharing σ count) (place : Fin count)
    (step : Exchange σ α) : Except Fault α × Sharing σ count :=
  let (result, ledger, guest) :=
    step.perform (sharing.ledgers place) sharing.guest
  (result,
    { sharing with
      ledgers := Function.update sharing.ledgers place ledger
      guest })

/-- The ledger that has issued a string still has its block. -/
def Owes (sharing : Sharing σ count) (issue : Issue count) : Prop :=
  issue ∈ sharing.issues ∧
    (sharing.ledgers issue.place).capacity? issue.string.pointer =
      some issue.string.capacity

/-- What a ledger has is the block of a string that it has issued. -/
def Traced (sharing : Sharing σ count) : Prop :=
  ∀ place pointer capacity,
    (sharing.ledgers place).capacity? pointer = some capacity →
      ∃ issue ∈ sharing.issues, issue.place = place ∧
        issue.string.pointer = pointer ∧ issue.string.capacity = capacity

theorem traced_new (guest : σ) : (new count guest).Traced := by
  intro place pointer capacity found
  cases found

theorem Traced.exchange {sharing : Sharing σ count}
    (traced : sharing.Traced) (place : Fin count) (step : Exchange σ α)
    (within : (step.perform (sharing.ledgers place) sharing.guest).2.1.Within
      (sharing.ledgers place)) :
    (sharing.exchange place step).2.Traced := by
  intro other pointer capacity found
  refine traced other pointer capacity ?_
  simp only [Sharing.exchange] at found
  by_cases same : other = place
  · subst same
    rw [Function.update_self] at found
    exact within pointer capacity found
  · rwa [Function.update_of_ne same] at found

variable [Guest σ]

def giveBack (sharing : Sharing σ count) (place : Fin count)
    (string : GuestString) : Except Fault Unit × Sharing σ count :=
  sharing.exchange place (release string)

/-- Carries out a deal. There is none with a number that no string has. -/
def step (sharing : Sharing σ count) : Deal count → Sharing σ count
  | .write place text terminator =>
    match sharing.exchange place (writeString text terminator) with
    | (.ok string, after) =>
      { after with
        inHand := ⟨place, string⟩ :: after.inHand
        issues := ⟨place, string⟩ :: after.issues }
    | (.error _, after) => after
  | .release place number =>
    match sharing.inHand[number]? with
    | none => sharing
    | some issue =>
      { (sharing.giveBack place issue.string).2 with
        inHand := sharing.inHand.eraseIdx number }
  | .read place pointer length =>
    (sharing.exchange place (readString pointer length)).2
  | .take place pointer =>
    (sharing.exchange place (takeCString pointer)).2

def run (sharing : Sharing σ count) (deals : List (Deal count)) :
    Sharing σ count :=
  deals.foldl step sharing

/-! ## What ledgers have -/

theorem Traced.write {sharing : Sharing σ count} (traced : sharing.Traced)
    (place : Fin count) (text : String) (terminator : Terminator) :
    (sharing.step (.write place text terminator)).Traced := by
  rcases performed : (writeString text terminator).perform
    (sharing.ledgers place) sharing.guest with ⟨fault | string, after, left⟩
  · have kept := traced.exchange place (writeString text terminator) (by
      rw [performed, Dealings.ledger_of_writeString_error performed]
      exact .of_live rfl)
    simp only [Sharing.exchange, performed] at kept
    simp only [step, Sharing.exchange, performed]
    exact kept
  · obtain ⟨rfl, -⟩ := Client.writeString_eq_ok performed
    simp only [step, Sharing.exchange, performed]
    intro other pointer capacity found
    by_cases here : other = place ∧ pointer = string.pointer
    · obtain ⟨rfl, rfl⟩ := here
      refine ⟨⟨other, string⟩, List.mem_cons_self .., rfl, rfl, ?_⟩
      simp only [Function.update_self, Ledger.capacity?_record, ↓reduceIte]
        at found
      exact Option.some.inj found
    · have before :
          (sharing.ledgers other).capacity? pointer = some capacity := by
        simp only [Function.update_apply] at found
        split at found
        · next same =>
            subst same
            have differs : pointer ≠ string.pointer :=
              fun equal => here ⟨rfl, equal⟩
            rwa [Ledger.capacity?_record, if_neg differs] at found
        · exact found
      obtain ⟨issue, member, rest⟩ := traced other pointer capacity before
      exact ⟨issue, List.mem_cons_of_mem _ member, rest⟩

theorem Traced.step {sharing : Sharing σ count} (traced : sharing.Traced)
    (deal : Deal count) : (sharing.step deal).Traced := by
  cases deal with
  | write place text terminator =>
      exact traced.write place text terminator
  | release place number =>
      rcases there : sharing.inHand[number]? with _ | issue
      · simp only [Sharing.step, there]
        exact traced
      · simp only [Sharing.step, there]
        exact traced.exchange place (release issue.string)
          (within_release issue.string _ _)
  | read place pointer length =>
      refine traced.exchange place (readString pointer length) ?_
      rw [Dealings.ledger_readString]
      exact .of_live rfl
  | take place pointer =>
      rcases taken : (takeCString pointer).perform (sharing.ledgers place)
        sharing.guest with ⟨result, after, left⟩
      refine traced.exchange place (takeCString pointer) ?_
      rw [taken, Dealings.ledger_of_takeCString taken]
      exact .of_live rfl

theorem Traced.run {sharing : Sharing σ count} (traced : sharing.Traced)
    (deals : List (Deal count)) : (sharing.run deals).Traced := by
  induction deals generalizing sharing with
  | nil =>
      exact traced
  | cons deal rest inductionHypothesis =>
      exact inductionHypothesis (traced.step deal)

/-! ## Strings that are turned down -/

/-- What comes of a string that a ledger turns down. No call reaches the
guest, no count changes, and the block at its pointer is dropped. That costs
a string its block whenever the ledger still owes one with this pointer; the
others can go back as before. -/
structure TurnsDown (sharing : Sharing σ count) (place : Fin count)
    (string : GuestString) (violation : Ledger.Violation) : Prop where
  answer : (sharing.giveBack place string).1 = .error violation.fault
  left : (sharing.giveBack place string).2 =
    { sharing with
      ledgers := Function.update sharing.ledgers place
        ((sharing.ledgers place).forget string.pointer) }
  unchanged_iff : (sharing.giveBack place string).2 = sharing ↔
    ∀ issue, sharing.Owes issue → issue.place = place →
      issue.string.pointer ≠ string.pointer
  lost : ∀ issue, sharing.Owes issue → issue.place = place →
    issue.string.pointer = string.pointer →
      (sharing.giveBack place string).2.giveBack place issue.string =
        (.error (Ledger.Violation.alreadyReleased string.pointer).fault,
          (sharing.giveBack place string).2)
  kept : ∀ issue, sharing.Owes issue →
    issue.place ≠ place ∨ issue.string.pointer ≠ string.pointer →
      ((sharing.giveBack place string).2.giveBack issue.place
          issue.string).1 =
        ((Guest.dealloc issue.string.pointer issue.string.capacity).run.run
          sharing.guest).1

theorem giveBack_of_refusal {sharing : Sharing σ count} {place : Fin count}
    {string : GuestString} {violation : Ledger.Violation}
    (refused :
      (sharing.ledgers place).refusal? string = some violation) :
    sharing.giveBack place string =
      (.error violation.fault,
        { sharing with
          ledgers := Function.update sharing.ledgers place
            ((sharing.ledgers place).forget string.pointer) }) := by
  simp only [giveBack, exchange, perform_release_of_refusal refused]

theorem giveBack_of_unknown {sharing : Sharing σ count} {place : Fin count}
    {string : GuestString}
    (unknown :
      (sharing.ledgers place).capacity? string.pointer = none) :
    sharing.giveBack place string =
      (.error (Ledger.Violation.alreadyReleased string.pointer).fault,
        sharing) := by
  have refused : (sharing.ledgers place).refusal? string =
      some (.alreadyReleased string.pointer) := by
    simp only [Ledger.refusal?, unknown]
  rw [giveBack_of_refusal refused, Ledger.forget_of_unknown unknown,
    Function.update_eq_self]

/-- A string that its ledger still has goes back as the guest's own call
comes out. -/
theorem giveBack_of_known {sharing : Sharing σ count} {place : Fin count}
    {string : GuestString}
    (known : (sharing.ledgers place).capacity? string.pointer =
      some string.capacity) :
    (sharing.giveBack place string).1 =
      ((Guest.dealloc string.pointer string.capacity).run.run
        sharing.guest).1 := by
  obtain ⟨after, performed, -⟩ :=
    Client.perform_release_of_known known sharing.guest
  simp only [giveBack, exchange, performed]

theorem Traced.turnsDown {sharing : Sharing σ count}
    (traced : sharing.Traced) {place : Fin count} {string : GuestString}
    {violation : Ledger.Violation}
    (refused :
      (sharing.ledgers place).refusal? string = some violation) :
    sharing.TurnsDown place string violation := by
  have turned := giveBack_of_refusal refused
  have unknown :
      ((sharing.giveBack place string).2.ledgers place).capacity?
        string.pointer = none := by
    simp only [turned, Function.update_self, Ledger.capacity?_forget]
  refine
    { answer := by rw [turned]
      left := by rw [turned]
      unchanged_iff := ⟨fun same issue owed here equal => ?_,
        fun apart => ?_⟩
      lost := fun issue owed here equal => ?_
      kept := fun issue owed apart => ?_ }
  · rw [same, ← equal, ← here, owed.2] at unknown
    cases unknown
  · cases found : (sharing.ledgers place).capacity? string.pointer with
    | none =>
        rw [giveBack_of_unknown found]
    | some capacity =>
        obtain ⟨issue, member, here, equal, sized⟩ :=
          traced place string.pointer capacity found
        have owed : sharing.Owes issue :=
          ⟨member, by rw [here, equal, sized, found]⟩
        exact absurd equal (apart issue owed here)
  · rw [← equal] at unknown ⊢
    exact giveBack_of_unknown unknown
  · have known :
        ((sharing.giveBack place string).2.ledgers issue.place).capacity?
          issue.string.pointer = some issue.string.capacity := by
      simp only [turned, Function.update_apply]
      split
      · next here =>
          have differs : issue.string.pointer ≠ string.pointer :=
            apart.resolve_left (not_not_intro here)
          rw [Ledger.capacity?_forget_of_ne differs, ← here]
          exact owed.2
      · exact owed.2
    rw [giveBack_of_known known, turned]

/-- Whatever the ledgers of a guest have been through, a string that one of
them turns down changes nothing exactly if that ledger owes no string with
the same pointer. If it does, that string is lost: its own ledger turns it
down from then on. -/
theorem run_turnsDown (guest : σ) (deals : List (Deal count))
    (place : Fin count) (string : GuestString)
    (violation : Ledger.Violation)
    (refused :
      (((new count guest).run deals).ledgers place).refusal? string =
        some violation) :
    ((new count guest).run deals).TurnsDown place string violation :=
  ((traced_new guest).run deals).turnsDown refused

end

end Sharing

/-! ## Two ledgers -/

/-- A guest that hands out the pointers it was given, one after another. -/
structure Dispenser where
  memory : Memory
  pointers : List UInt32

namespace Dispenser

def alloc (dispenser : Dispenser) : Except Fault UInt32 × Dispenser :=
  match dispenser.pointers with
  | [] => (.error (.new .module "out of memory"), dispenser)
  | pointer :: rest => (.ok pointer, { dispenser with pointers := rest })

instance : Guest Dispenser where
  memory := memory
  store pointer bytes := modify fun dispenser =>
    { dispenser with
      memory := dispenser.memory.write pointer.toNat bytes }
  alloc _ := ExceptT.mk alloc
  dealloc _ _ := pure ()
  deallocText _ := pure ()

end Dispenser

namespace Sharing

def longer : GuestString := ⟨64, 5, 6, .nul⟩

def shorter : GuestString := ⟨64, 2, 3, .nul⟩

/-- Two ledgers, each with a string at the same pointer. -/
def crossed : Sharing Dispenser 2 :=
  (new 2 ⟨.new 256 0, [64, 64]⟩).run
    [.write 0 "hello" .nul, .write 1 "hi" .nul]

theorem run_turnsDown_shorter :
    (crossed.ledgers 0).refusal? shorter = some (.wrongCapacity 64 3 6) ∧
      crossed.TurnsDown 0 shorter (.wrongCapacity 64 3 6) :=
  ⟨by decide +kernel, run_turnsDown _ _ 0 shorter _ (by decide +kernel)⟩

/-- The shorter string is turned down by the ledger of the longer one, which
can no longer go back then. -/
theorem longer_lost_to_shorter :
    crossed.inHand = [⟨1, shorter⟩, ⟨0, longer⟩] ∧
      (crossed.giveBack 0 longer).1 = .ok () ∧
      (crossed.giveBack 0 shorter).1 =
        .error (Ledger.Violation.wrongCapacity 64 3 6).fault ∧
      (crossed.giveBack 0 shorter).2.ledgers 0 ≠ crossed.ledgers 0 ∧
      ((crossed.giveBack 0 shorter).2.giveBack 0 longer).1 =
        .error (Ledger.Violation.alreadyReleased 64).fault := by
  have known : (crossed.ledgers 0).capacity? 64 = some 6 := by
    decide +kernel
  have refused : (crossed.ledgers 0).refusal? shorter =
      some (.wrongCapacity 64 3 6) := by
    decide +kernel
  have turned := giveBack_of_refusal refused
  have forgotten :
      ((crossed.giveBack 0 shorter).2.ledgers 0).capacity? 64 = none := by
    simp only [turned, Function.update_self]
    exact Ledger.capacity?_forget _ 64
  refine ⟨by decide +kernel, ?_, ?_, ?_, ?_⟩
  · rw [giveBack_of_known known]
    rfl
  · rw [turned]
  · intro same
    rw [same, known] at forgotten
    cases forgotten
  · rw [giveBack_of_unknown forgotten]
    rfl

end Sharing

end Exchange

end KeymapViewer
