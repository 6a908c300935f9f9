import KeymapViewer.Disk
import KeymapViewer.Fault

/-!
Watching the directory of a keymap file. Events that concern the keymap make
it dirty, and it is drawn again once it has been quiet for a whole window.
-/

namespace KeymapViewer.Preview

/-! ## Events -/

inductive EventKind where
  | any
  | access
  | create
  | modify
  | remove
  | other
  deriving DecidableEq, Repr

structure Event where
  kind : EventKind
  paths : List String
  deriving DecidableEq, Repr

/-- Whether the kind of an event can mean another content. -/
def EventKind.changes : EventKind → Bool
  | .create | .modify | .remove => true
  | .any | .access | .other => false

/-- Whether an event may have changed the file at a path. -/
def Event.concerns (event : Event) (target : String) : Bool :=
  event.kind.changes && event.paths.any (Path.same · target)

inductive Change where
  | write (path : String) (bytes : Text.Bytes)
  | read (path : String)
  | remove (path : String)
  | rename (source target : String)
  deriving DecidableEq, Repr

namespace Change

def apply (disk : Disk) : Change → Except Disk.Error Disk
  | .write path bytes => disk.write path bytes
  | .read path => do
    let _ ← disk.read path
    return disk
  | .remove path => disk.remove path
  | .rename source target => disk.rename source target

/-- The places that a change touches, each with the kind of its event. -/
def touches (disk : Disk) :
    Change → Except Disk.Error (List (EventKind × Disk.Place))
  | .write path _ => do
    let place ← disk.resolve path
    let kind := if disk.contains path then .modify else .create
    return [(kind, place)]
  | .read path => return [(.access, ← disk.resolve path)]
  | .remove path => return [(.remove, ← disk.resolve path)]
  | .rename source target => do
    let source ← disk.resolve source
    let target ← disk.resolve target
    if source = target then return []
    else return [(.modify, source), (.modify, target)]

end Change

/-! ## The watcher -/

structure Watcher where
  target : String
  directory : String
  deriving DecidableEq, Repr

namespace Watcher

def fault (path message : String) : Fault :=
  (Fault.devServer message).withDetail .path path

/-- Watches the directory that a file is in. The file need not be there. -/
def new (disk : Disk) (target : String) : Except Fault Watcher := do
  match Path.parent? target with
  | none => throw (fault target "Keymap file has no parent directory to watch")
  | some directory =>
    let absolute :=
      Path.join (Path.ofParts disk.workingDirectory) directory
    match disk.find absolute with
    | .ok _ => return ⟨target, absolute⟩
    | .error error =>
      throw (fault directory s!"Failed to watch directory: {error.message}")

/-- The events that the watcher gets to see when a change is made: those of
entries right in its directory. -/
def events (watcher : Watcher) (disk : Disk) (change : Change) :
    List Event :=
  match disk.find watcher.directory, change.touches disk, change.apply disk with
  | .ok (directory, _), .ok touched, .ok _ =>
    touched.filterMap fun (kind, place) =>
      match place.getLast? with
      | some name =>
        if place.dropLast = directory then
          some ⟨kind, [Path.join watcher.directory name]⟩
        else
          none
      | none => none
  | _, _, _ => []

def relevantEvents (watcher : Watcher) (disk : Disk) (change : Change) :
    List Event :=
  (watcher.events disk change).filter (·.concerns watcher.target)

end Watcher

/-! ## Waiting until it is quiet -/

inductive Poll where
  | changed
  | warning (message : String)
  | idle
  | closed
  deriving DecidableEq, Repr

/-- Whether a file that is dirty since some time has to be drawn now. -/
def isDue (window : Nat) (dirtySince : Option Nat) (now : Nat) : Bool :=
  match dirtySince with
  | some since => decide (window ≤ now - since)
  | none => false

/-- What the watcher said, when it was heard, and when it was then decided
whether to draw. -/
structure Observation where
  poll : Poll
  heardAt : Nat
  decidedAt : Nat
  deriving DecidableEq, Repr

/-- Between two drawings: the time of the latest change, if there was one. -/
inductive Vigil where
  | waiting (dirtySince : Option Nat)
  | ended
  deriving DecidableEq, Repr

/-- What is done about an observation. -/
structure Reaction where
  warning : Option String
  draws : Bool
  deriving DecidableEq, Repr

namespace Vigil

def start : Vigil := .waiting none

/-- The time of the latest change after an observation. -/
def dirtyAfter (dirtySince : Option Nat) (observation : Observation) :
    Option Nat :=
  match observation.poll with
  | .changed => some observation.heardAt
  | _ => dirtySince

def warning? : Poll → Option String
  | .warning message => some message
  | .closed => some "the file watcher stopped."
  | .changed | .idle => none

def step (window : Nat) (vigil : Vigil) (observation : Observation) :
    Reaction × Vigil :=
  match vigil, observation.poll with
  | .ended, _ => (⟨none, false⟩, .ended)
  | .waiting _, .closed => (⟨warning? .closed, false⟩, .ended)
  | .waiting dirtySince, poll =>
    let dirtySince := dirtyAfter dirtySince observation
    let draws := isDue window dirtySince observation.decidedAt
    (⟨warning? poll, draws⟩, .waiting (if draws then none else dirtySince))

/-- The reactions to observations one after another. -/
def run (window : Nat) : Vigil → List Observation → List Reaction × Vigil
  | vigil, [] => ([], vigil)
  | vigil, observation :: rest =>
    let (reaction, vigil) := vigil.step window observation
    let (reactions, vigil) := vigil.run window rest
    (reaction :: reactions, vigil)

theorem run_append (window : Nat) (vigil : Vigil)
    (first second : List Observation) :
    vigil.run window (first ++ second) =
      let (before, middle) := vigil.run window first
      let (after, final) := middle.run window second
      (before ++ after, final) := by
  induction first generalizing vigil with
  | nil => rfl
  | cons observation rest inductionHypothesis =>
      simp only [List.cons_append, run, inductionHypothesis]

end Vigil

end KeymapViewer.Preview
