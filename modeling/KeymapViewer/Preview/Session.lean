import KeymapViewer.Console
import KeymapViewer.Preview.Server
import KeymapViewer.Preview.Watch
import KeymapViewer.Text.Blank

/-!
A preview session: a server on a keymap file, and the vigil that draws the
file again after it changed.
-/

namespace KeymapViewer.Preview

structure Session where
  server : Server
  watcher : Watcher
  /-- How long the keymap has to be quiet, in milliseconds. -/
  window : Nat
  vigil : Vigil
  /-- The time since the session began, in milliseconds. -/
  clock : Nat

/-- The absolute path of the keymap file, which has to be there. -/
def keymapPath (disk : Disk) (path : String) : Except Fault String :=
  if Text.isBlankText path then
    .error (.devServer "Dev server needs a keymap file to watch.")
  else if !disk.isFile path then
    .error <|
      (Fault.file path
        "Dev server keymap path must be an existing file.").withDetail
        .primarySuggestion
        "Remote keymaps can be rendered once with `ergoweb render <url>`"
  else
    (disk.canonical path).mapError fun error =>
      .file path s!"Failed to canonicalize keymap path: {error.message}"

/-- The host as it is shown in the address of the page. -/
def shownHost (host : String) : String :=
  if host = "127.0.0.1" then "localhost" else host

namespace Session

def drawFirst (server : Server) : Task Server := do
  let (cycle, server) := server.cycle (← Task.disk)
  if cycle.succeeded then
    Task.say .green "Initial render succeeded."
  else
    Task.say .yellow
      "Initial render failed, serving the error page until the keymap is fixed:"
    Task.say .yellow server.progress.summary
  return server

/-- Begins to listen, unless another program does so at this port. -/
def listen (settings : ServerSettings) : Task Unit := do
  if (← get).takenPorts.contains settings.port then
    throw <| .devServer <|
      s!"Failed to start dev server on {settings.host}:{settings.port}: " ++
      "Address already in use (os error 98)"
  Task.say .bold "Dev server listening at:"
  Task.print <| Terminal.line <| [
    "http://", shownHost settings.host, ":", toString settings.port].map
    (Terminal.Span.styled .green)

def start (viewer : Viewer) (path : String) (settings : ServerSettings) :
    Task Session := do
  let keymap ← Task.ofResult (keymapPath (← Task.disk) path)
  let watcher ← Task.ofResult (Watcher.new (← Task.disk) keymap)
  Task.print <| Terminal.line
    [.styled .gray "Watching ", .styled .gray watcher.target]
  let server ← drawFirst (.new viewer keymap)
  listen settings
  return ⟨server, watcher, settings.pollIntervalMs, .start, 0⟩

/-- Takes an observation of the watcher in, and prints what is done about
it. -/
def observe (session : Session) (observation : Observation) :
    StateM Console Session := do
  let (reaction, vigil) := session.vigil.step session.window observation
  if let some message := reaction.warning then
    modify (·.print <| Terminal.line
      [.styled .yellow "Dev server watch warning: ", .styled .yellow message])
  if reaction.draws then
    let (cycle, server) := session.server.cycle (← get).disk
    modify (·.print cycle.line)
    return { session with server, vigil }
  else
    return { session with vigil }

/-- Lets a whole window pass without any change. -/
def wait (session : Session) : StateM Console Session := do
  let now := session.clock + session.window
  { session with clock := now }.observe ⟨.idle, now, now⟩

/-- Makes a change on disk, and lets a window pass. A change that fails
changes nothing. -/
def change (session : Session) (change : Change) :
    StateM Console Session := do
  let disk := (← get).disk
  let events := session.watcher.relevantEvents disk change
  if let .ok disk := change.apply disk then
    modify fun console => { console with disk }
  let now := session.clock
  let session ← events.foldlM (fun session _ =>
    session.observe ⟨.changed, now, now⟩) session
  session.wait

end Session

end KeymapViewer.Preview
