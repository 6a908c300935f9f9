import KeymapViewer.Text.Search

/-!
The script that reloads a served page as soon as the keymap is drawn again,
and its place in the page.
-/

namespace KeymapViewer.Preview

/-- The path at which a page listens for reloads. -/
def eventsPath : String := "/__ergoweb/events"

/-- The comment by which the script is recognised. -/
def reloadMarker : String := "<!-- ergoweb-dev-client -->"

def reloadScript : String :=
  "\n" ++ reloadMarker ++ "\n<script>\n" ++
  "  (() => \x7b\n" ++
  "    const source = new EventSource('" ++ eventsPath ++ "');\n" ++
  "    source.addEventListener('reload', () => window.location.reload());\n" ++
  "  \x7d)();\n" ++
  "</script>\n"

def bodyEnd : String := "</body>"

/-- Puts a text in front of the last end of a body, or at the very end. -/
def insertAtBodyEnd (addition page : List Char) : List Char :=
  match Text.cutLast? bodyEnd.toList page with
  | some (before, after) => before ++ addition ++ bodyEnd.toList ++ after
  | none => page ++ addition

/-- The page with the script, unless its comment is there already. -/
def withReloadScript (page : String) : String :=
  if Text.contains reloadMarker.toList page.toList then page
  else String.ofList (insertAtBodyEnd reloadScript.toList page.toList)

end KeymapViewer.Preview
