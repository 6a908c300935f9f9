import KeymapViewer.CommandLine.Run
import KeymapViewer.Preview.Route
import Std.Async.TCP

/-!
The program: it brings the files that a command names onto a disk, carries the
command out there, and brings what was printed and written back. A preview
session then goes on with the connections that come in.
-/

namespace KeymapViewer.Program

open Preview Std.Async.TCP

/-! ## Files -/

/-- Brings a file, or a directory without its entries, onto the disk. -/
def bring (disk : Disk) (place : Disk.Place) : IO Disk := do
  let path := Path.ofParts place
  try
    let found ← IO.FS.realPath path
    if ← found.isDir then
      return (disk.setNode place .directory)
    else
      return disk.setNode place (.file (← IO.FS.readBinFile found).toList)
  catch _ => return disk

/-- Brings what a path leads to onto the disk, with the directories on the
way. -/
def bringPath (disk : Disk) (path : String) : IO Disk := do
  let absolute := Path.join (Path.ofParts disk.workingDirectory) path
  (Disk.enclosing (Path.parts absolute)).foldlM (fun disk parts => do
    match disk.resolve (Path.ofParts parts) with
    | .ok place => if place.isEmpty then return disk else bring disk place
    | .error _ => return disk) disk

def bringPaths (disk : Disk) (paths : List String) : IO Disk :=
  paths.foldlM bringPath disk

def takeBack (before after : Disk) : IO Unit := do
  for (place, node) in after.nodes do
    if let .file bytes := node then
      if before.node? place != some node then
        IO.FS.writeBinFile (Path.ofParts place) ⟨bytes.toArray⟩

def flush (console : Console) : IO Console := do
  let output ← IO.getStdout
  output.putStr console.printed
  output.flush
  return { console with printed := "" }

/-! ## Connections -/

def address? (settings : ServerSettings) : Option Std.Net.SocketAddress := do
  let host := if settings.host = "localhost" then "127.0.0.1" else settings.host
  let ip ← Std.Net.IPv4Addr.ofString host
  return .v4 ⟨ip, settings.port.toUInt16⟩

def listen? (settings : ServerSettings) : IO (Option Socket.Server) := do
  match address? settings with
  | none => return none
  | some address =>
    try
      let socket ← Socket.Server.mk
      socket.bind address
      socket.listen 64
      return some socket
    catch _ => return none

def send (connection : Socket.Client) (text : String) : IO Unit := do
  try
    (connection.send text.toUTF8).block
  catch _ => return

/-- Receives until a request is complete or nothing more comes. -/
partial def receive (connection : Socket.Client) (received : Text.Bytes) :
    IO Text.Bytes := do
  if Request.isComplete received then return received
  match ← (connection.recv? 4096).block with
  | some more => receive connection (received ++ more.toList)
  | none => return received

structure Serving where
  session : Session
  console : Console
  streams : List (Nat × Socket.Client)

/-- Sends the news that wait for every stream. -/
def sendNews (serving : Serving) : IO Serving :=
  serving.streams.foldlM (fun serving (listener, connection) => do
    let (news, server) :=
      serving.session.server.withAudience (·.collect listener)
    for reload in news do
      send connection reload.text
    return { serving with session := { serving.session with server } }) serving

def answer (serving : Serving) (connection : Socket.Client) :
    IO Serving := do
  match serving.session.server.answer (← receive connection []) with
  | .error .notText => return serving
  | .ok (answer, server) =>
    let serving := { serving with session := { serving.session with server } }
    match answer with
    | .nothing => return serving
    | .response response =>
      send connection response.text
      connection.shutdown.block
      return serving
    | .stream listener =>
      send connection streamHead
      let streams := serving.streams ++ [(listener, connection)]
      return { serving with streams }

/-- The change that the keymap file made since it was looked at last. -/
def keymapChange? (serving : Serving) : IO (Option Change) := do
  let keymap := serving.session.server.keymap
  let known := (serving.console.disk.read keymap).toOption
  let found ←
    try pure (some (← IO.FS.readBinFile keymap).toList)
    catch _ => pure none
  if known = found then return none
  else return some (found.elim (.remove keymap) (.write keymap))

/-- Draws the keymap again if it changed. -/
def look (serving : Serving) : IO Serving := do
  match ← keymapChange? serving with
  | none => return serving
  | some change =>
    let (session, console) := (serving.session.change change).run serving.console
    sendNews { serving with session, console := ← flush console }

/-- Goes on with a session for ever. -/
partial def serve (socket : Socket.Server) (serving : Serving)
    (lookedAt : Nat) : IO Unit := do
  let serving ←
    match ← socket.tryAccept with
    | some connection =>
      try answer serving connection
      catch _ => pure serving
    | none =>
      IO.sleep 10
      pure serving
  let now ← IO.monoMsNow
  if serving.session.window ≤ now - lookedAt then
    serve socket (← look serving) now
  else
    serve socket serving lookedAt

/-! ## The command line -/

/-- The disk with all that a command line names, and the socket of a preview
session. -/
def prepare (disk : Disk) (words : List String) :
    IO (Console × Option Socket.Server) := do
  match Invocation.ofWords words with
  | .error _ => return (.new disk [], none)
  | .ok invocation =>
    let disk ← bringPath disk (invocation.config.getD Settings.fileName)
    match Settings.load disk invocation.config with
    | .error _ => return (.new disk [], none)
    | .ok settings =>
      let base := Path.ofParts disk.workingDirectory
      let disk ← bringPaths disk (invocation.command.paths settings base)
      match invocation.command with
      | .dev _ _ overrides =>
        let server := overrides.apply settings.server
        match ← listen? server with
        | some socket => return (.new disk [], some socket)
        | none => return (.new disk [server.port], none)
      | _ => return (.new disk [], none)

def run (words : List String) : IO Unit := do
  let directory := (← IO.currentDir).toString
  let (console, socket) ← prepare (.new (Path.parts directory)) words
  let before := console.disk
  let (session, console) := (runWords words).run console
  let console ← flush console
  takeBack before console.disk
  match session, socket with
  | some session, some socket =>
    serve socket ⟨session, console, []⟩ (← IO.monoMsNow)
  | _, _ => return

end KeymapViewer.Program

def main (words : List String) : IO Unit :=
  KeymapViewer.Program.run words
