import KeymapViewer.Markup.Token

/-!
Documents as trees: how tokens become a forest, and how a forest is written.
-/

namespace KeymapViewer.Markup

structure Element where
  tag : String
  attributes : List Attribute
  selfClosing : Bool
  deriving DecidableEq, Repr

/-- The value of the first attribute with the given name. -/
def Element.attribute? (element : Element) (name : String) : Option String :=
  (element.attributes.find? (·.name == name)).map (·.value)

inductive Content where
  /-- The root of a document. -/
  | document
  | element (element : Element)
  | text (text : String)
  | comment (text : String)
  | declaration (text : String)
  deriving DecidableEq, Repr

inductive Tree where
  | node (content : Content) (children : List Tree)
  deriving Repr

abbrev Forest := List Tree

def Tree.leaf (content : Content) : Tree := .node content []

/-! ## Writing -/

def Attribute.render (item : Attribute) : List Char :=
  if item.value.isEmpty then ' ' :: item.name.toList
  else
    ' ' :: item.name.toList ++ '=' :: '"' ::
      escapeAttribute item.value.toList ++ ['"']

/-- What stands between the brackets of a start tag. -/
def Element.renderHead (element : Element) : List Char :=
  element.tag.toList ++ element.attributes.flatMap Attribute.render

/-- An element around its content. Without children a self-closing element is
one tag; the content of a void element is not written. -/
def Element.render (element : Element) (childless : Bool)
    (content : List Char) : List Char :=
  if element.selfClosing && childless then
    '<' :: element.renderHead ++ ['/', '>']
  else if isVoid element.tag then
    '<' :: element.renderHead ++ ['>']
  else
    '<' :: element.renderHead ++ '>' :: content ++
      '<' :: '/' :: element.tag.toList ++ ['>']

mutual

def Tree.render : Tree → List Char
  | .node .document children => renderAll children
  | .node (.element element) children =>
    element.render children.isEmpty (renderAll children)
  | .node (.text text) _ => text.toList
  | .node (.comment text) _ => "<!--".toList ++ text.toList ++ "-->".toList
  | .node (.declaration text) _ => "<!".toList ++ text.toList ++ ['>']

def renderAll : List Tree → List Char
  | [] => []
  | tree :: forest => tree.render ++ renderAll forest

end

mutual

/-- The text below an element, as it is written. -/
def Tree.innerText : Tree → List Char
  | .node (.text text) _ => text.toList
  | .node (.element _) children => innerTextAll children
  | .node _ _ => []

def innerTextAll : List Tree → List Char
  | [] => []
  | tree :: forest => tree.innerText ++ innerTextAll forest

end

mutual

def Tree.size : Tree → Nat
  | .node _ children => sizeAll children + 1

def sizeAll : List Tree → Nat
  | [] => 0
  | tree :: forest => tree.size + sizeAll forest

end

/-! ## Reading -/

/-- An element whose end tag has not come yet. -/
structure OpenElement where
  element : Element
  /-- The siblings before it, the nearest first. -/
  siblings : List Tree
  deriving Repr

/-- A forest under construction. -/
structure Builder where
  /-- The finished children of the innermost open element, the last first. -/
  finished : List Tree
  /-- The open elements, the innermost first. -/
  opened : List OpenElement
  deriving Repr

namespace Builder

def empty : Builder := ⟨[], []⟩

def push (builder : Builder) (tree : Tree) : Builder :=
  { builder with finished := tree :: builder.finished }

/-- Closes open elements up to and including the innermost one that the end
tag names. Without such an element there is no result. -/
def closeThrough? (name : String) :
    List Tree → List OpenElement → Option Builder
  | _, [] => none
  | finished, frame :: outer =>
    let closed :=
      Tree.node (.element frame.element) finished.reverse :: frame.siblings
    if sameName frame.element.tag name then some ⟨closed, outer⟩
    else closeThrough? name closed outer

def closeAll : List Tree → List OpenElement → Forest
  | finished, [] => finished.reverse
  | finished, frame :: outer =>
    closeAll
      (.node (.element frame.element) finished.reverse :: frame.siblings)
      outer

def add (builder : Builder) : Token → Builder
  | .startTag name attributes selfClosing =>
    let element : Element := ⟨name, attributes, selfClosing⟩
    if selfClosing || isVoid name then
      builder.push (.leaf (.element element))
    else
      ⟨[], ⟨element, builder.finished⟩ :: builder.opened⟩
  | .endTag name =>
    (closeThrough? name builder.finished builder.opened).getD builder
  | .text text => builder.push (.leaf (.text text))
  | .comment text => builder.push (.leaf (.comment text))
  | .declaration text => builder.push (.leaf (.declaration text))

def finish (builder : Builder) : Forest :=
  closeAll builder.finished builder.opened

end Builder

/-- The forest of a token list. An end tag closes the innermost open element
of its name together with everything inside it, and is ignored when there is
none; elements still open at the end are closed there. -/
def Forest.ofTokens (tokens : List Token) : Forest :=
  (tokens.foldl Builder.add .empty).finish

def Forest.parse (markup : String) : Forest :=
  Forest.ofTokens (tokenize markup)

end KeymapViewer.Markup
