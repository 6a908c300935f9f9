import KeymapViewer.Markup.Entity
import KeymapViewer.Preview.ReloadScript

/-!
The page that is served while no keymap is drawn. It reloads like any other
page, so that a mended keymap shows at once.
-/

namespace KeymapViewer.Preview

def escaped (text : String) : String :=
  String.ofList (Markup.escapeText text.toList)

def faultPageHead (title : String) : String :=
  "<!doctype html>\n" ++
  "<html lang=\"en\">\n" ++
  "<head>\n" ++
  "  <meta charset=\"utf-8\" />\n" ++
  "  <title>ergoweb: " ++ escaped title ++ "</title>\n"

def faultPageStyle : String :=
  "  <style>\n" ++
  "    body \x7b margin: 2rem; font-family: Menlo, Consolas, monospace; " ++
  "background: #f7f7f9; \x7d\n" ++
  "    h1 \x7b font-size: 1.1rem; color: #9c0f2b; \x7d\n" ++
  "    .meta \x7b color: #64646e; \x7d\n" ++
  "    pre \x7b background: #fff; border: 1px solid #d8d8df; " ++
  "padding: 1rem; overflow-x: auto; \x7d\n" ++
  "  </style>\n" ++
  "</head>\n"

def faultPageBody (title details : String) (version : Nat) : String :=
  "<body>\n" ++
  "  <h1>" ++ escaped title ++ "</h1>\n" ++
  "  <p class=\"meta\">Render #" ++ toString version ++
  ". Save the keymap file to try again.</p>\n" ++
  "  <pre>" ++ escaped details ++ "</pre>\n" ++
  "</body>\n" ++
  "</html>"

/-- A page that tells what went wrong at a version of the drawing. -/
def faultPage (title details : String) (version : Nat) : String :=
  withReloadScript
    (faultPageHead title ++ faultPageStyle ++
      faultPageBody title details version)

end KeymapViewer.Preview
