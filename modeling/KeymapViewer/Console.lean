import KeymapViewer.Fetch
import KeymapViewer.Terminal

/-!
What commands work on: a disk, the ports of this machine, the network, and the
text that they print.
-/

namespace KeymapViewer

structure Console where
  disk : Disk
  /-- The ports that other programs listen at. -/
  takenPorts : List Nat
  network : Network
  printed : String

/-- Work at a console. What was printed or written stays when it fails. -/
abbrev Task (α : Type) : Type := ExceptT Fault (StateM Console) α

namespace Console

def new (disk : Disk) (takenPorts : List Nat)
    (network : Network := .offline) : Console :=
  ⟨disk, takenPorts, network, ""⟩

def print (console : Console) (text : String) : Console :=
  { console with printed := console.printed ++ text }

def perform (console : Console) (task : Task α) :
    Except Fault α × Console :=
  task.run.run console

end Console

namespace Task

def print (text : String) : Task Unit := modify (·.print text)

def say (style : Terminal.Style) (text : String) : Task Unit :=
  print (Terminal.line [.styled style text])

def disk : Task Disk := return (← get).disk

def network : Task Network := return (← get).network

def ofResult (result : Except Fault α) : Task α := ExceptT.mk (return result)

/-- Writes a file. The fault of a failure begins with the given words. -/
def writeFile (path : String) (bytes : Text.Bytes) (failure : String) :
    Task Unit := do
  match (← disk).write path bytes with
  | .ok disk => modify fun console => { console with disk }
  | .error error => throw (.file path s!"{failure}: {error.message}")

end Task

end KeymapViewer
