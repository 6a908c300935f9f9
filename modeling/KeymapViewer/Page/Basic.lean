import KeymapViewer.Fault
import KeymapViewer.Page.Arena

/-!
The viewer page. Elements are found through an index of their ids, and markup
is read into the slots and written back from them.

A slot number that leads nowhere would be a broken page, which no operation
makes; where one would be met, the page stays as it is.
-/

namespace KeymapViewer

open Markup

namespace Page

/-- The trees below the children of a slot. -/
def forestBelow (page : Page) (slot : Nat) : Forest :=
  (page.forestBelow? slot).getD []

def forest (page : Page) : Forest := page.forestBelow root

def toHtml (page : Page) : String :=
  String.ofList (renderAll page.forest)

def parse? (html : String) : Option Page := do
  (← empty.appendMarkup? root html).reindex?

def parse (html : String) : Page := (parse? html).getD empty

/-! ## Elements -/

def contains (page : Page) (id : String) : Bool :=
  (page.ids.lookup id).isSome

def elementIds (page : Page) : List String :=
  page.ids.map (·.1)

/-- The slot that an id stands for. -/
def slotOf (page : Page) (id : String) : Except Fault Nat :=
  match page.ids.lookup id with
  | some slot => .ok slot
  | none => .error (.missingElement id)

def find (page : Page) (id : String) : Except Fault Element := do
  match page.node? (← page.slotOf id) with
  | some ⟨.element element, _⟩ => return element
  | _ => throw (.missingElement id)

def tagName (page : Page) (id : String) : Except Fault String := do
  return (← page.find id).tag

def attribute? (page : Page) (id name : String) :
    Except Fault (Option String) := do
  return (← page.find id).attribute? name

/-- Sets the first attribute of a name, or adds one at the end. -/
def withAttribute (name value : String) : List Attribute → List Attribute
  | [] => [⟨name, value⟩]
  | item :: rest =>
    if item.name == name then { item with value } :: rest
    else item :: withAttribute name value rest

/-- Changes the attributes of the element in a slot. -/
def editAttributes? (page : Page) (slot : Nat)
    (edit : List Attribute → List Attribute) : Option Page :=
  match page.node? slot with
  | some ⟨.element element, children⟩ =>
    let edited := { element with attributes := edit element.attributes }
    some (page.setNode slot ⟨.element edited, children⟩)
  | _ => none

/-- Sets an attribute of the element in a slot. When it is the id, the index
follows. -/
def setAttributeAt? (page : Page) (slot : Nat) (name value : String) :
    Option Page := do
  let edited ← page.editAttributes? slot (withAttribute name value)
  if name = "id" then edited.reindex? else return edited

def setAttribute (page : Page) (id name value : String) :
    Except Fault Page := do
  let slot ← page.slotOf id
  return (page.setAttributeAt? slot name value).getD page

/-- Removes every attribute of a name. The index stays as it is. -/
def removeAttribute (page : Page) (id name : String) :
    Except Fault Page := do
  let slot ← page.slotOf id
  return (page.editAttributes? slot (·.filter (·.name != name))).getD page

/-! ## Content -/

def setInnerHtml (page : Page) (id markup : String) : Except Fault Page := do
  let slot ← page.slotOf id
  return (page.replaceBelow? slot markup).getD page

def innerHtml (page : Page) (id : String) : Except Fault String := do
  let slot ← page.slotOf id
  return String.ofList (renderAll (page.forestBelow slot))

/-- All text below an element, as it is written. -/
def textContent (page : Page) (id : String) : Except Fault String := do
  let slot ← page.slotOf id
  return String.ofList (innerTextAll (page.forestBelow slot))

end Page

end KeymapViewer
