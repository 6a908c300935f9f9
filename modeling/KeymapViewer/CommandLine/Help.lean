import KeymapViewer.Terminal

/-!
The help texts.
-/

namespace KeymapViewer.Help

open Terminal

def heading (text : String) : String :=
  line [⟨[.green, .bold], text⟩]

def plainLine (text : String) : String := line [.plain text]

def title : String :=
  line [.styled .gray "------------------------------------"] ++
  heading "ergoweb: the ergodox keymap viewer host" ++
  line [.plain "Usage: ", .styled .bold "<command>", .styled .italic " <args>"]

def commandLines : List String := [
  "  render <file|url>    - Renders a keymap into the viewer page",
  "  load \"<query>\"       - Starts the viewer page with a query string " ++
    "(?fileurl=...)",
  "  dev <file>           - Serves the viewer page, re-rendering when the " ++
    "keymap changes",
  "  inspect <wasm>       - Prints the module's exports, imports and entry " ++
    "ABI as JSON",
  "  stub <out.wasm>      - Writes a stand-in keymap module that echoes its " ++
    "input",
  "  help                 - Shows this message"]

def flagLines : List String := [
  "  --config <path>      (default: ./ergoweb.toml when present)",
  "  --module <wasm|url>  (render, load, dev)",
  "  --out <html>         (render, load; default: stdout)",
  "  --layer <k>          (render)",
  "  --bindgen | --throwing  (stub)"]

def serverLines : List String := [
  "\nDev command options:",
  "  --host <host>            (default: 127.0.0.1)",
  "  --port <port>            (default: 6342)",
  "  --poll-interval-ms <ms>  (default: 300)"]

def commands : String :=
  heading "\nCommands:" ++ String.join (commandLines.map plainLine) ++
  heading "\nFlags:" ++ String.join (flagLines.map plainLine) ++
  String.join (serverLines.map plainLine)

def full : String := title ++ commands

end KeymapViewer.Help
