import KeymapViewer.Text.Json
import KeymapViewer.Word

/-!
The pages that listen for reloads. Every finished drawing is announced to
all of them; those that no longer listen are struck off at the next
announcement.
-/

namespace KeymapViewer.Preview

structure Reload where
  version : Nat
  succeeded : Bool
  deriving DecidableEq, Repr

/-- The text of the news on an event stream. -/
def Reload.text (reload : Reload) : String :=
  let data := JsonValue.object
    [("ok", .bool reload.succeeded), ("version", .number reload.version)]
  "event: reload\ndata: " ++ data.compact ++ "\n\n"

structure Listener where
  id : Nat
  registered : Bool
  /-- The news not yet taken, as long as anyone listens for it. -/
  inbox : Option (List Reload)
  deriving DecidableEq, Repr

/-- Hands news to a registered listener. One that does not listen any more
loses its registration. -/
def Listener.tell (reload : Reload) (listener : Listener) : Listener :=
  if listener.registered then
    match listener.inbox with
    | some news => { listener with inbox := some (news ++ [reload]) }
    | none => { listener with registered := false }
  else
    listener

theorem Listener.id_tell (reload : Reload) (listener : Listener) :
    (listener.tell reload).id = listener.id := by
  unfold Listener.tell
  split
  · split
    · rfl
    · rfl
  · rfl

structure Audience where
  /-- Everyone who ever came, in the order of coming. -/
  listeners : List Listener
  nextId : Nat
  deriving DecidableEq, Repr

namespace Audience

def empty : Audience := ⟨[], 1⟩

/-- The ids of those who are registered. -/
def registered (audience : Audience) : List Nat :=
  (audience.listeners.filter (·.registered)).map (·.id)

def change (audience : Audience) (id : Nat)
    (update : Listener → Listener) : Audience :=
  { audience with
    listeners := audience.listeners.map fun listener =>
      if listener.id = id then update listener else listener }

def listener? (audience : Audience) (id : Nat) : Option Listener :=
  audience.listeners.find? (·.id = id)

def join (audience : Audience) : Nat × Audience :=
  (audience.nextId,
    { listeners := audience.listeners ++ [⟨audience.nextId, true, some []⟩]
      nextId := (audience.nextId + 1) % wordCount 64 })

/-- Ends a registration. What the listener was told before stays with it. -/
def leave (audience : Audience) (id : Nat) : Audience :=
  audience.change id fun listener => { listener with registered := false }

/-- A listener stops to listen. The result tells whether it did listen. -/
def hangUp (audience : Audience) (id : Nat) : Bool × Audience :=
  (((audience.listener? id).bind (·.inbox)).isSome,
    audience.change id fun listener => { listener with inbox := none })

/-- Takes the news that wait at a listener. -/
def collect (audience : Audience) (id : Nat) : List Reload × Audience :=
  (((audience.listener? id).bind (·.inbox)).getD [],
    audience.change id fun listener =>
      { listener with inbox := listener.inbox.map fun _ => [] })

/-- Tells everyone, and gives the number of those who are registered then. -/
def announce (audience : Audience) (reload : Reload) : Nat × Audience :=
  let told :=
    { audience with
      listeners := audience.listeners.map (Listener.tell reload) }
  (told.registered.length, told)

end Audience

end KeymapViewer.Preview
