import KeymapViewer.Page.Basic

/-!
Form controls: values of fields and groups of radio buttons.
-/

namespace KeymapViewer

open Markup Text

namespace Page

def isChecked (page : Page) (id : String) : Except Fault Bool := do
  return (← page.attribute? id "checked").isSome

/-- The group of a radio button: its name, if it has one. -/
def radioGroup? (element : Element) : Option String :=
  match element.attribute? "type" with
  | some kind => if sameName kind "radio" then element.attribute? "name" else none
  | none => none

/-- The other elements of the index that are radio buttons of a group. -/
def groupMembers (page : Page) (id group : String) : List String :=
  page.elementIds.filter fun other =>
    other != id &&
      match page.find other with
      | .ok element => radioGroup? element == some group
      | .error _ => false

/-- Checks or unchecks an element. Checking a radio button unchecks the
others of its group. -/
def setChecked (page : Page) (id : String) (checked : Bool) :
    Except Fault Page :=
  if checked then do
    let element ← page.find id
    let others :=
      match radioGroup? element with
      | some group => page.groupMembers id group
      | none => []
    let cleared ← others.foldlM (·.removeAttribute · "checked") page
    cleared.setAttribute id "checked" ""
  else
    page.removeAttribute id "checked"

def isTextArea (page : Page) (id : String) : Except Fault Bool := do
  return sameName (← page.tagName id) "textarea"

/-- The value of a field: the text of a text area, the value attribute of
anything else. -/
def value (page : Page) (id : String) : Except Fault String := do
  if ← page.isTextArea id then
    return String.ofList (decodeEntities (← page.textContent id).toList)
  else
    return (← page.attribute? id "value").getD ""

def setValue (page : Page) (id value : String) : Except Fault Page := do
  if ← page.isTextArea id then
    page.setInnerHtml id (String.ofList (escapeText value.toList))
  else
    page.setAttribute id "value" value

end Page

end KeymapViewer
