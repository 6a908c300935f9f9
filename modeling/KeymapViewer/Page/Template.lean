/-!
The page that is shown when the settings name no template.
-/

namespace KeymapViewer.Page

def templateLines : List String :=
  ["<!DOCTYPE html>",
    "<html>",
    "<head>",
    "<meta charset=\"utf-8\">",
    "<title>Ergodox keymap viewer</title>",
    "<style>",
    "#spinny \x7b width: 2em; height: 2em; border: 0.3em solid #ccc; border-top-color: #333; border-radius: 50%; \x7d",
    ".source \x7b margin: 0.5em 0; \x7d",
    "</style>",
    "</head>",
    "<body>",
    "<form class=\"source\" method=\"get\">",
    "<input type=\"radio\" name=\"source\" id=\"texttab\" checked>",
    "<label for=\"texttab\">Paste keymap</label>",
    "<input type=\"radio\" name=\"source\" id=\"urltab\">",
    "<label for=\"urltab\">Keymap URL</label>",
    "<textarea id=\"kmtext\" name=\"kmtext\" rows=\"12\" cols=\"80\"></textarea>",
    "<input type=\"text\" id=\"urlname\" name=\"fileurl\" value=\"\">",
    "<button type=\"submit\">Render</button>",
    "</form>",
    "<div id=\"spinny\" style=\"display: none\"></div>",
    "<div id=\"keymap\"><svg xmlns=\"http://www.w3.org/2000/svg\" width=\"0\" height=\"0\"><g id=\"layer0\" visibility=\"visible\"></g></svg></div>",
    "</body>",
    "</html>"]

/-- The built-in viewer page: a form to paste a keymap or give its address,
a spinner, and the element that holds the drawn layers. -/
def template : String :=
  String.join (templateLines.map (· ++ "\n"))

end KeymapViewer.Page
