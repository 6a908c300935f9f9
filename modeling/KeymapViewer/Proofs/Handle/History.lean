import KeymapViewer.Proofs.Handle.FreeList
import Mathlib.Data.List.Infix
import Mathlib.Data.List.Induction

/-!
Handle tables as stores with reference counts. What a handle stands for is
told by the operations alone: the value it was last handed out for, the
references taken since then and those given back. After every run the table
holds what its history tells.
-/

namespace KeymapViewer.HandleTable

open Handle

inductive Operation where
  | add (value : HostValue)
  | clone (handle : Handle)
  | release (handle : Handle)
  | push (value : HostValue)
  | pop
  | clear
  deriving DecidableEq, Repr

inductive Answer where
  | handle (handle : Handle)
  | popped (value : Option HostValue)
  | done
  | refused (misuse : Misuse)
  deriving DecidableEq, Repr

structure Event where
  operation : Operation
  answer : Answer
  deriving DecidableEq, Repr

/-- What has happened to a table, the last event first. -/
abbrev History : Type := List Event

/-- Carries out an operation. One that is refused leaves the table as it
was. -/
def perform (table : HandleTable) : Operation → Answer × HandleTable
  | .add value =>
    let (handle, after) := table.add value
    (.handle handle, after)
  | .clone handle =>
    match table.clone handle with
    | .ok (copy, after) => (.handle copy, after)
    | .error misuse => (.refused misuse, table)
  | .release handle =>
    match table.release handle with
    | .ok after => (.done, after)
    | .error misuse => (.refused misuse, table)
  | .push value =>
    let (handle, after) := table.push value
    (.handle handle, after)
  | .pop =>
    let (value, after) := table.pop
    (.popped value, after)
  | .clear => (.done, table.clearStack)

/-- A table with its history. -/
structure Session where
  history : History
  table : HandleTable

def Session.step (session : Session) (operation : Operation) : Session :=
  let (answer, table) := session.table.perform operation
  ⟨⟨operation, answer⟩ :: session.history, table⟩

/-- A run from an empty table. -/
def run (operations : List Operation) : Session :=
  operations.foldl Session.step ⟨[], .empty⟩

/-! ## What a history tells -/

namespace History

/-- The borrowed values, the one pushed first at position zero. -/
def borrowed : History → List HostValue
  | [] => []
  | ⟨.push value, _⟩ :: earlier => borrowed earlier ++ [value]
  | ⟨.pop, _⟩ :: earlier => (borrowed earlier).dropLast
  | ⟨.clear, _⟩ :: _ => []
  | _ :: earlier => borrowed earlier

/-- The value that an event stores under a handle. Cloning a borrowed value
stores it as adding it does. -/
def stored? (earlier : History) (handle : Handle) :
    Event → Option HostValue
  | ⟨.add value, .handle given⟩ => if given = handle then some value else none
  | ⟨.clone source, .handle given⟩ =>
    if source.isStack ∧ given = handle then (borrowed earlier)[source.index]?
    else none
  | _ => none

/-- The value that was last stored under a handle, with the events since
then. -/
def since? (handle : Handle) : History → Option (HostValue × History)
  | [] => none
  | event :: earlier =>
    match stored? earlier handle event with
    | some value => some (value, [])
    | none =>
      (since? handle earlier).map fun (value, later) => (value, event :: later)

/-- The references taken to a handle by cloning it. -/
def taken (handle : Handle) (later : History) : Nat :=
  later.count ⟨.clone handle, .handle handle⟩

/-- The references to a handle that were given back. -/
def returned (handle : Handle) (later : History) : Nat :=
  later.count ⟨.release handle, .done⟩

/-- The value of a handle and its references, unless all were given back. -/
def balance? (handle : Handle) (history : History) :
    Option (HostValue × Nat) :=
  match since? handle history with
  | none => none
  | some (value, later) =>
    if returned handle later < taken handle later + 1 then
      some (value, taken handle later + 1 - returned handle later)
    else
      none

/-! ## How one event changes a balance -/

variable {earlier later : History} {handle : Handle} {event : Event}
  {value : HostValue}

theorem since?_of_stored
    (stores : stored? earlier handle event = some value) :
    since? handle (event :: earlier) = some (value, []) := by
  rw [since?, stores]

theorem since?_of_none (other : stored? earlier handle event = none) :
    since? handle (event :: earlier) =
      (since? handle earlier).map
        fun (value, later) => (value, event :: later) := by
  rw [since?, other]

theorem balance?_eq_some_iff {count : Nat} {history : History} :
    balance? handle history = some (value, count) ↔
      ∃ later, since? handle history = some (value, later) ∧
        returned handle later < taken handle later + 1 ∧
        count = taken handle later + 1 - returned handle later := by
  unfold balance?
  rcases since? handle history with _ | ⟨stored, later⟩
  · simp
  · simp only [Option.ite_none_right_eq_some, Option.some.injEq,
      Prod.mk.injEq]
    constructor
    · rintro ⟨outstanding, rfl, rfl⟩
      exact ⟨later, ⟨rfl, rfl⟩, outstanding, rfl⟩
    · rintro ⟨_, ⟨rfl, rfl⟩, outstanding, rfl⟩
      exact ⟨outstanding, rfl, rfl⟩

/-- A value that is stored is held once. -/
theorem balance?_of_stored
    (stores : stored? earlier handle event = some value) :
    balance? handle (event :: earlier) = some (value, 1) :=
  balance?_eq_some_iff.mpr ⟨[], since?_of_stored stores, by simp [returned],
    by simp [taken, returned]⟩

/-- Events that store nothing under a handle, and neither take a reference to
it nor give one back, leave its balance alone. -/
theorem balance?_of_other (other : stored? earlier handle event = none)
    (notTaken : event ≠ ⟨.clone handle, .handle handle⟩)
    (notReturned : event ≠ ⟨.release handle, .done⟩) :
    balance? handle (event :: earlier) = balance? handle earlier := by
  have takenSame (later : History) :
      taken handle (event :: later) = taken handle later :=
    List.count_cons_of_ne notTaken
  have returnedSame (later : History) :
      returned handle (event :: later) = returned handle later :=
    List.count_cons_of_ne notReturned
  unfold balance?
  rw [since?_of_none other]
  rcases since? handle earlier with _ | ⟨kept, later⟩
  · rfl
  · simp only [Option.map_some, takenSame, returnedSame]

theorem balance?_of_refused (operation : Operation) (misuse : Misuse) :
    balance? handle (⟨operation, .refused misuse⟩ :: earlier) =
      balance? handle earlier := by
  refine balance?_of_other ?_ (by simp) (by simp)
  cases operation with
  | add | clone | release | push | pop | clear =>
      rfl

/-- One more reference to a handle that is held. -/
theorem balance?_of_taken (entry : handle.isStack = Bool.false) {count : Nat}
    (held : balance? handle earlier = some (value, count)) :
    balance? handle (⟨.clone handle, .handle handle⟩ :: earlier) =
      some (value, count + 1) := by
  have kept :
      stored? earlier handle ⟨.clone handle, .handle handle⟩ = none := by
    simp [stored?, entry]
  obtain ⟨later, found, outstanding, rfl⟩ := balance?_eq_some_iff.mp held
  have takenMore :
      taken handle (⟨.clone handle, .handle handle⟩ :: later) =
        taken handle later + 1 :=
    List.count_cons_self
  have returnedSame :
      returned handle (⟨.clone handle, .handle handle⟩ :: later) =
        returned handle later :=
    List.count_cons_of_ne (by simp)
  refine balance?_eq_some_iff.mpr
    ⟨⟨.clone handle, .handle handle⟩ :: later, ?_, ?_, ?_⟩
  · rw [since?_of_none kept, found, Option.map_some]
  · omega
  · omega

/-- One reference less, and none at all after the last one. -/
theorem balance?_of_returned {count : Nat}
    (held : balance? handle earlier = some (value, count)) :
    balance? handle (⟨.release handle, .done⟩ :: earlier) =
      if 1 < count then some (value, count - 1) else none := by
  have kept : stored? earlier handle ⟨.release handle, .done⟩ = none := rfl
  obtain ⟨later, found, outstanding, rfl⟩ := balance?_eq_some_iff.mp held
  have takenSame :
      taken handle (⟨.release handle, .done⟩ :: later) =
        taken handle later :=
    List.count_cons_of_ne (by simp)
  have returnedMore :
      returned handle (⟨.release handle, .done⟩ :: later) =
        returned handle later + 1 :=
    List.count_cons_self
  simp only [balance?, since?_of_none kept, found, Option.map_some, takenSame,
    returnedMore]
  split
  · rw [if_pos (by omega), Nat.sub_sub]
  · rw [if_neg (by omega)]

end History

/-- The numbers of entries and of references fit into their words. -/
def WithinLimits (table : HandleTable) : Prop :=
  table.arena.size < entryLimit ∧
    ∀ slot ∈ table.arena.toList, ∀ held ∈ slot.occupant?,
      held.2 < wordCount 32

/-- The numbers fit all the way of a run. -/
def StaysWithin (operations : List Operation) : Prop :=
  ∀ earlier ∈ operations.inits, (run earlier).table.WithinLimits

instance (table : HandleTable) : Decidable table.WithinLimits :=
  inferInstanceAs (Decidable (_ ∧ _))

instance (operations : List Operation) : Decidable (StaysWithin operations) :=
  inferInstanceAs (Decidable (∀ earlier ∈ operations.inits, _))

end KeymapViewer.HandleTable
