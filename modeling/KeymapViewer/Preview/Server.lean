import KeymapViewer.Preview.Audience
import KeymapViewer.Preview.FaultPage
import KeymapViewer.Terminal
import KeymapViewer.Viewer

/-!
The preview server: a viewer on a keymap file, what came of the latest
drawing, and the pages that listen for the next. A cycle draws the keymap,
records what came of it and announces it, in three separate steps.
-/

namespace KeymapViewer.Preview

/-- What came of the latest drawing. -/
structure Progress where
  isDrawn : Bool
  /-- The page about the latest drawing, if it failed. -/
  failurePage? : Option String
  version : Nat
  summary : String
  deriving DecidableEq, Repr

namespace Progress

def start : Progress :=
  ⟨false, none, 0, "The keymap has not been rendered yet."⟩

/-- The number after which versions stay the same. -/
def lastVersion : Nat := wordCount 64 - 1

/-- The page that stands in for the viewer while no keymap is drawn. -/
def standIn? (progress : Progress) : Option String :=
  if progress.isDrawn then none
  else
    some <| progress.failurePage?.getD
      (faultPage "Not Rendered" progress.summary progress.version)

/-- Counts a drawing and keeps what came of it. -/
def record (progress : Progress) (result : Except Fault Unit) : Progress :=
  let version := min (progress.version + 1) lastVersion
  let progress := { progress with version, isDrawn := result.toBool }
  match result with
  | .ok () =>
    { progress with failurePage? := none, summary := "Keymap rendered." }
  | .error fault =>
    let report := fault.report
    { progress with
      failurePage? := some (faultPage "Render Failed" report version)
      summary := report }

theorem isDrawn_record (progress : Progress) (result : Except Fault Unit) :
    (progress.record result).isDrawn = result.toBool := by
  cases result <;> rfl

theorem version_record (progress : Progress) (result : Except Fault Unit)
    (below : progress.version < lastVersion) :
    (progress.record result).version = progress.version + 1 := by
  cases result <;> simp only [record] <;> omega

end Progress

structure Server (σ : Type := Instance) (τ : Type := List String) where
  keymap : String
  viewer : Viewer σ τ
  progress : Progress
  audience : Audience

structure Cycle where
  version : Nat
  succeeded : Bool
  notified : Nat
  deriving DecidableEq, Repr

/-- The line that is printed after a cycle. -/
def Cycle.line (cycle : Cycle) : String :=
  let (style, ending) :=
    if cycle.succeeded then (.green, " finished. Reload broadcast to ")
    else (.yellow, " failed. Reload broadcast to ")
  Terminal.line <| [
    "Render #", toString cycle.version, ending, toString cycle.notified,
    " clients."].map (Terminal.Span.styled style)

namespace Server

variable {σ τ α : Type}

def new (viewer : Viewer σ τ) (keymap : String) : Server σ τ :=
  ⟨keymap, viewer, .start, .empty⟩

/-- The text of the keymap file, which has to be UTF-8. -/
def readKeymap (disk : Disk) (keymap : String) : Except Fault String :=
  (disk.readText keymap).mapError fun error =>
    .file keymap s!"Could not read keymap file: {error.message}"

/-- Draws the keymap as it is on disk now. -/
def draw [Renderer σ] (disk : Disk) (server : Server σ τ) :
    Except Fault Unit × Server σ τ :=
  match readKeymap disk server.keymap with
  | .error fault => (.error fault, server)
  | .ok text =>
    let (result, viewer) := server.viewer.perform (Viewer.renderText text)
    (result, { server with viewer })

def record (server : Server σ τ) (result : Except Fault Unit) : Server σ τ :=
  { server with progress := server.progress.record result }

def withAudience (server : Server σ τ) (change : Audience → α × Audience) :
    α × Server σ τ :=
  let (result, audience) := change server.audience
  (result, { server with audience })

def announce (server : Server σ τ) (reload : Reload) : Nat × Server σ τ :=
  server.withAudience (·.announce reload)

/-- Draws, records and announces. -/
def cycle [Renderer σ] (disk : Disk) (server : Server σ τ) :
    Cycle × Server σ τ :=
  let (result, server) := server.draw disk
  let server := server.record result
  let version := server.progress.version
  let (notified, server) := server.announce ⟨version, result.toBool⟩
  (⟨version, result.toBool, notified⟩, server)

end Server

end KeymapViewer.Preview
