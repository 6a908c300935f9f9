import KeymapViewer.CommandLine.Arguments
import KeymapViewer.CommandLine.Help
import KeymapViewer.Contract
import KeymapViewer.Preview.Session

/-!
Carrying out command lines. A command ends, fails, or leaves a preview
session behind that goes on.
-/

namespace KeymapViewer

open Preview

/-- Draws a keymap by its path or address. A local one is read, put into the
text field and drawn from there. -/
def Viewer.renderSource (fetch : FetchBytes) (source : String) :
    Action Unit := do
  if Fetch.isRemote source then
    renderFromUrl fetch source
  else
    let text ← look fun _ => Fetch.text fetch source
    let settings := (← get).settings
    edit (·.setValue settings.textId text)
    renderFromTextField

namespace Command

def withModule (settings : Settings) (module : Option String) : Settings :=
  { settings with
    module := { settings.module with
      path := module.getD settings.module.path } }

/-- The directory that relative locations start from. -/
def base : Task String := do
  return Path.ofParts (← Task.disk).workingDirectory

def openViewer (settings : Settings) : Task Viewer := do
  Task.ofResult
    (Viewer.openWith (← Task.disk) settings (← base) (← Task.network))

def act (viewer : Viewer) (action : Viewer.Action α) : Task (α × Viewer) := do
  match viewer.perform action with
  | (.ok result, viewer) => return (result, viewer)
  | (.error fault, _) => throw fault

def fetch : Task FetchBytes := do
  return Fetch.bytes (← Task.disk) (← base) (← Task.network)

def writePage (viewer : Viewer) (out : Option String) : Task Unit := do
  let html := viewer.page.toHtml
  match out with
  | none => Task.print (html ++ "\n")
  | some out =>
    Task.writeFile out (Text.Utf8.encode html)
      "Could not write the viewer page"
    Task.print <| Terminal.line
      [.styled .green "Viewer page written to ", .styled .green out]

def runRender (settings : Settings) (source : String)
    (options : RenderOptions) : Task Unit := do
  let viewer ← openViewer (withModule settings options.module)
  let fetch ← fetch
  let (_, viewer) ← act viewer do
    Viewer.renderSource fetch source
    if let some layer := options.layer then
      Viewer.showOnlyLayer layer
  writePage viewer options.out

def runLoad (settings : Settings) (query : String)
    (options : RenderOptions) : Task Unit := do
  let viewer ← openViewer (withModule settings options.module)
  let fetch ← fetch
  let (found, viewer) ← act viewer (Viewer.startFromQuery fetch query)
  if !found then
    Task.say .yellow "No fileurl in the query, the page is left as loaded."
  let (_, viewer) ← act viewer (Viewer.applyLayerQuery query)
  writePage viewer options.out

def runDev (settings : Settings) (keymap : String) (module : Option String)
    (overrides : ServerOverrides) : Task Session := do
  Task.print (Help.plainLine "\nStarting dev server...")
  let viewer ← openViewer (withModule settings module)
  Session.start viewer keymap (overrides.apply settings.server)

def runInspect (settings : Settings) (location : String) : Task Unit := do
  let binary ← Task.ofResult ((← fetch) location)
  match Contract.inspect binary settings.module.entry with
  | .ok contract => Task.print (contract.report ++ "\n")
  | .error cause => throw cause.fault

def runStub (out : String) (kind : Stub.Kind) : Task Unit := do
  Task.writeFile out kind.binary "Could not write stub module"
  Task.print <| Terminal.line <| [
    "Wrote ", kind.name, " stub module to ", out].map
    (Terminal.Span.styled .green)

def run (command : Command) (settings : Settings) :
    Task (Option Session) := do
  match command with
  | .help => Task.print Help.full; return none
  | .render source options => runRender settings source options; return none
  | .load query options => runLoad settings query options; return none
  | .dev keymap module overrides =>
    return some (← runDev settings keymap module overrides)
  | .inspect location => runInspect settings location; return none
  | .stub out kind => runStub out kind; return none

/-- The paths of the files that a command may read or write, from a base
directory. -/
def paths (command : Command) (settings : Settings) (base : String) :
    List String :=
  let page (module : Option String) :=
    settings.viewer.template.toList ++
      [Fetch.path base (withModule settings module).module.path]
  match command with
  | .render source options =>
    page options.module ++ [Fetch.path base source] ++ options.out.toList
  | .load query options =>
    let source := (Viewer.queryValue? query Viewer.fileUrlVariable).bind
      fun encoded => (Query.decodeComponent encoded).toOption
    page options.module ++ (source.map (Fetch.path base)).toList ++
      options.out.toList
  | .dev keymap module _ => page module ++ [keymap]
  | .inspect location => [Fetch.path base location]
  | .stub out _ => [out]
  | .help => []

end Command

/-- Loads the settings of a command line and carries out its command. -/
def Invocation.run (invocation : Invocation) : Task (Option Session) := do
  let settings ← Task.ofResult
    (Settings.load (← Task.disk) invocation.config)
  invocation.command.run settings

/-- Carries out a command line, from its words to what is printed. Help does
not need any settings. -/
def runWords (words : List String) : StateM Console (Option Session) := do
  match Invocation.ofWords words with
  | .error fault =>
    modify (·.print <|
      Terminal.line [.styled .red fault.message] ++ Help.commands)
    return none
  | .ok ⟨_, .help⟩ =>
    modify (·.print Help.full)
    return none
  | .ok invocation =>
    match ← invocation.run.run with
    | .ok session => return session
    | .error fault =>
      modify (·.print fault.printed)
      return none

end KeymapViewer
