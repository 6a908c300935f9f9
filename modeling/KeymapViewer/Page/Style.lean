import KeymapViewer.Page.Basic

/-!
The style attribute of an element, read as a list of declarations.
-/

namespace KeymapViewer

open Text

structure Declaration where
  property : String
  value : String
  deriving DecidableEq, Repr

/-- The declaration that stands between two semicolons, if it has a colon and
a property. -/
def Declaration.parse? (text : List Char) : Option Declaration :=
  match cut? [':'] text with
  | none => none
  | some (property, value) =>
    let property := trim property
    if property.isEmpty then none
    else some ⟨String.ofList property, String.ofList (trim value)⟩

def Declaration.render (declaration : Declaration) : String :=
  declaration.property ++ ": " ++ declaration.value

abbrev Style := List Declaration

namespace Style

def parse (text : String) : Style :=
  (text.toList.splitOn ';').filterMap Declaration.parse?

def render (style : Style) : String :=
  "; ".intercalate (style.map Declaration.render)

/-- The value of the first declaration of a property, empty without one. -/
def get (style : Style) (property : String) : String :=
  match style.find? (·.property == property) with
  | some declaration => declaration.value
  | none => ""

/-- Sets the first declaration of a property, or adds one at the end. -/
def set (property value : String) : Style → Style
  | [] => [⟨property, value⟩]
  | declaration :: rest =>
    if declaration.property == property then
      { declaration with value } :: rest
    else
      declaration :: set property value rest

end Style

namespace Page

def style (page : Page) (id : String) : Except Fault Style := do
  let text ← page.attribute? id "style"
  return .parse (text.getD "")

def styleProperty (page : Page) (id property : String) :
    Except Fault String := do
  return (← page.style id).get property

def setStyleProperty (page : Page) (id property value : String) :
    Except Fault Page := do
  let style ← page.style id
  page.setAttribute id "style" (style.set property value).render

end Page

end KeymapViewer
