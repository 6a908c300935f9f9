import KeymapViewer.Markup.Tree

/-!
The slots of a page. Nodes live in numbered slots that are reused, and name
their children by slot numbers. A walk over the slots has no result when it
comes to a vacant one; the document that a page is made of never leads there.
-/

namespace KeymapViewer

open Markup

/-- A node of a page; its children are slot numbers. -/
structure Page.Node where
  content : Content
  children : List Nat
  deriving DecidableEq, Repr

structure Page where
  slots : Array (Option Page.Node)
  /-- The vacant slots, the one vacated last first. -/
  free : List Nat
  /-- The elements that can be found by an id, in document order. -/
  ids : List (String × Nat)
  deriving Repr

namespace Page

def root : Nat := 0

def empty : Page := ⟨#[some ⟨.document, []⟩], [], []⟩

def node? (page : Page) (slot : Nat) : Option Node :=
  (page.slots[slot]?).join

/-- The number of nodes of the document, its root included. -/
def nodeCount (page : Page) : Nat :=
  page.slots.countP Option.isSome

/-! ## Views -/

/-- The tree below a slot, which may be so deep. -/
def treeAt? (page : Page) : Nat → Nat → Option Tree
  | 0, _ => none
  | depth + 1, slot => do
    let node ← page.node? slot
    return .node node.content (← node.children.mapM (page.treeAt? depth))

/-- The trees below the children of a slot. No path through a document is
longer than the number of its slots. -/
def forestBelow? (page : Page) (slot : Nat) : Option Forest := do
  (← page.node? slot).children.mapM (page.treeAt? page.slots.size)

/-- The slots at and below the pending ones in document order, which may be
so many. -/
def walk? (page : Page) : Nat → List Nat → Option (List Nat)
  | _, [] => some []
  | 0, _ :: _ => none
  | steps + 1, slot :: pending => do
    let node ← page.node? slot
    return slot :: (← page.walk? steps (node.children ++ pending))

/-! ## Changes -/

def setNode (page : Page) (slot : Nat) (node : Node) : Page :=
  { page with slots := page.slots.setIfInBounds slot (some node) }

/-- Puts a node into the slot that became vacant last, or into a new one. -/
def occupy (page : Page) (node : Node) : Page × Nat :=
  match page.free with
  | slot :: free =>
    ({ page with slots := page.slots.setIfInBounds slot (some node), free },
      slot)
  | [] =>
    ({ page with slots := page.slots.push (some node) }, page.slots.size)

def vacate (page : Page) (slot : Nat) : Page :=
  { page with
    slots := page.slots.setIfInBounds slot none
    free := slot :: page.free }

/-- Adds a node as the last child of a slot. -/
def insert? (page : Page) (content : Content) (parent : Nat) :
    Option (Page × Nat) := do
  let (page, slot) := page.occupy ⟨content, []⟩
  let node ← page.node? parent
  return (page.setNode parent { node with children := node.children ++ [slot] },
    slot)

/-- Vacates a slot and all slots below it, which may be so many levels,
children before their parents. -/
def removeSubtree? : Nat → Page → Nat → Option Page
  | 0, _, _ => none
  | depth + 1, page, slot => do
    let node ← page.node? slot
    let cleared ← node.children.foldlM (removeSubtree? depth)
      (page.setNode slot { node with children := [] })
    return cleared.vacate slot

/-- Vacates all slots below a slot. -/
def clearBelow? (page : Page) (slot : Nat) : Option Page := do
  let node ← page.node? slot
  node.children.foldlM (removeSubtree? page.slots.size)
    (page.setNode slot { node with children := [] })

/-! ## Adding markup -/

/-- The slots that markup goes to: the innermost open element, and those
around it up to the slot that the markup was begun in, which stays open. -/
structure Place where
  current : Nat
  outer : List Nat
  deriving DecidableEq, Repr

def Node.isNamed (node : Node) (name : String) : Bool :=
  match node.content with
  | .element element => sameName element.tag name
  | _ => false

/-- The place after an end tag, if the end tag closes anything. It closes open
elements up to and including the innermost one that it names. -/
def closeThrough? (page : Page) (name : String) :
    Nat → List Nat → Option (Option Place)
  | _, [] => some none
  | current, next :: outer => do
    let node ← page.node? current
    if node.isNamed name then return some ⟨next, outer⟩
    else page.closeThrough? name next outer

def addToken? (token : Token) (page : Page) (place : Place) :
    Option (Page × Place) :=
  let leaf (content : Content) : Option (Page × Place) := do
    let (page, _) ← page.insert? content place.current
    return (page, place)
  match token with
  | .startTag name attributes selfClosing => do
    let element : Element := ⟨name, attributes, selfClosing⟩
    let (page, slot) ← page.insert? (.element element) place.current
    if selfClosing || isVoid name then return (page, place)
    else return (page, ⟨slot, place.current :: place.outer⟩)
  | .endTag name => do
    let closed ← page.closeThrough? name place.current place.outer
    return (page, closed.getD place)
  | .text text => leaf (.text text)
  | .comment text => leaf (.comment text)
  | .declaration text => leaf (.declaration text)

def addTokens? : List Token → Page → Place → Option (Page × Place)
  | [], page, place => some (page, place)
  | token :: rest, page, place => do
    let (page, place) ← addToken? token page place
    addTokens? rest page place

/-- Adds markup to the content of a slot. -/
def appendMarkup? (page : Page) (slot : Nat) (markup : String) :
    Option Page := do
  let (page, _) ← addTokens? (tokenize markup) page ⟨slot, []⟩
  return page

/-! ## The index of ids -/

/-- The id of the element in a slot. -/
def idOf? (page : Page) (slot : Nat) : Option String :=
  match page.node? slot with
  | some ⟨.element element, _⟩ => element.attribute? "id"
  | _ => none

/-- Adds an element to an index, unless an earlier one has its id. -/
def indexElement (index : List (String × Nat)) (entry : String × Nat) :
    List (String × Nat) :=
  if (index.lookup entry.1).isSome then index else index ++ [entry]

/-- Builds the index anew. Of several elements with one id the first in
document order is found. -/
def reindex? (page : Page) : Option Page := do
  let slots ← page.walk? page.slots.size [root]
  let entries := slots.filterMap fun slot =>
    (page.idOf? slot).map (·, slot)
  return { page with ids := entries.foldl indexElement [] }

/-- Puts markup below a slot, in place of all that is there. -/
def replaceBelow? (page : Page) (slot : Nat) (markup : String) :
    Option Page := do
  let cleared ← page.clearBelow? slot
  (← cleared.appendMarkup? slot markup).reindex?

end Page

end KeymapViewer
