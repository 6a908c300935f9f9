import KeymapViewer.Settings
import KeymapViewer.Stub

/-!
The commands, and what can be wrong with the words of a command line.
-/

namespace KeymapViewer

structure RenderOptions where
  module : Option String
  out : Option String
  /-- The layer that is shown in the end. -/
  layer : Option Nat
  deriving DecidableEq, Repr

def RenderOptions.none : RenderOptions := ⟨.none, .none, .none⟩

/-- Server settings that the command line gives. -/
structure ServerOverrides where
  host : Option String
  port : Option Nat
  pollIntervalMs : Option Nat
  deriving DecidableEq, Repr

namespace ServerOverrides

def none : ServerOverrides := ⟨.none, .none, .none⟩

def apply (overrides : ServerOverrides) (settings : ServerSettings) :
    ServerSettings :=
  { host := overrides.host.getD settings.host
    port := overrides.port.getD settings.port
    pollIntervalMs := overrides.pollIntervalMs.getD settings.pollIntervalMs }

end ServerOverrides

inductive Command where
  /-- Draws a keymap file or address in the viewer page. -/
  | render (source : String) (options : RenderOptions)
  /-- Opens the viewer page with a query. -/
  | load (query : String) (options : RenderOptions)
  /-- Serves the viewer page and draws the keymap whenever it changes. -/
  | dev (keymap : String) (module : Option String)
      (overrides : ServerOverrides)
  | inspect (location : String)
  | stub (out : String) (kind : Stub.Kind)
  | help
  deriving DecidableEq, Repr

/-- The commands that draw on a page and then end. -/
inductive PageCommand where
  | render
  | load
  deriving DecidableEq, Repr

def PageCommand.name : PageCommand → String
  | .render => "render"
  | .load => "load"

inductive UsageFault where
  | missingValue (flag : String)
  | unknownCommand (name : String)
  | missingSource
  | secondPositional (command : PageCommand)
  | unknownPageFlag (command : PageCommand) (flag : String)
  | badLayer (value : String)
  | missingKeymap
  | secondKeymap
  | unknownServerFlag (flag : String)
  | badPort (value : String)
  | zeroInterval
  | badInterval (value : String)
  | missingModule
  | secondModule
  | missingStubPath
  | secondStubPath
  | unknownStubFlag (flag : String)
  deriving DecidableEq, Repr

def UsageFault.message : UsageFault → String
  | .missingValue flag => s!"Missing value for {flag}"
  | .unknownCommand name => s!"Invalid command: '{name}'"
  | .missingSource =>
    "Render needs a keymap file or URL (try 'ergoweb render keymap.txt')"
  | .secondPositional command =>
    s!"{command.name} accepts at most one positional argument."
  | .unknownPageFlag command flag =>
    s!"Unknown {command.name} flag: '{flag}'."
  | .badLayer value =>
    s!"Invalid --layer value: '{value}'. It must be a layer number."
  | .missingKeymap => "Dev command needs a keymap file to watch."
  | .secondKeymap => "Dev command accepts at most one keymap file."
  | .unknownServerFlag flag =>
    s!"Unknown dev flag: '{flag}'. Supported dev flags are " ++
    "--module, --host, --port, --poll-interval-ms."
  | .badPort value =>
    s!"Invalid --port value: '{value}'. " ++
    "Port must be a number from 0 to 65535."
  | .zeroInterval =>
    "Invalid --poll-interval-ms value: '0'. It must be greater than zero."
  | .badInterval value =>
    s!"Invalid --poll-interval-ms value: '{value}'. " ++
    "It must be a positive integer."
  | .missingModule => "Inspect needs a module path or URL."
  | .secondModule => "Inspect accepts exactly one module path."
  | .missingStubPath =>
    "Stub needs an output path (try 'ergoweb stub stub.wasm')"
  | .secondStubPath => "Stub accepts exactly one output path."
  | .unknownStubFlag flag =>
    s!"Unknown stub flag: '{flag}'. " ++
    "Supported stub flags are --bindgen, --throwing."

end KeymapViewer
