import KeymapViewer.Toml.Literal

/-!
TOML documents: keys, values, and statements line by line. The syntax is that
of version 1.1, without arrays of tables.
-/

namespace KeymapViewer.Toml

/-! ## White space -/

def skipSpaces : Scan Unit := do
  let _ ← Scan.takeWhile isSpace

def skipComment : Scan Unit := do
  if (← Scan.peek?) = some '#' then
    let comment ← Scan.takeWhile fun c => c != '\n' && c != '\r'
    if comment.any isControl then
      throw .controlCharacter

def skipLines : Nat → Scan Unit
  | 0 => return ()
  | fuel + 1 => do
    skipSpaces
    skipComment
    if ← acceptNewline then
      skipLines fuel

/-! ## Keys -/

def isBareChar (c : Char) : Bool :=
  c.isAlphanum || c == '_' || c == '-'

def simpleKey (fuel : Nat) : Scan String := do
  if ← Scan.accept "\"" then
    return String.ofList (← basicString fuel)
  else if ← Scan.accept "'" then
    return String.ofList (← literalString)
  else
    let key ← Scan.takeWhile isBareChar
    if key.isEmpty then
      throw (.expected "key")
    return String.ofList key

/-- Keys with dots between them, and the white space around them. -/
def keyParts : Nat → Scan (List String)
  | 0 => throw (.expected "key")
  | fuel + 1 => do
    skipSpaces
    let key ← simpleKey fuel
    skipSpaces
    if ← Scan.accept "." then
      return key :: (← keyParts fuel)
    else
      return [key]

/-- The most keys that dots can join, and the most arrays and inline tables
that can stand inside each other. -/
def depthLimit : Nat := 80

def dottedKey (fuel : Nat) : Scan (List String) := do
  let keys ← keyParts fuel
  if depthLimit < keys.length then
    throw .tooDeep
  return keys

/-! ## Values -/

/-- Enters an array or an inline table, where so many more can stand inside
each other. -/
def enter : Nat → Scan Nat
  | 0 => throw .tooDeep
  | depth + 1 => return depth

mutual

/-- A value that so many arrays and inline tables can stand inside. -/
def value (depth : Nat) : Nat → Scan Value
  | 0 => throw (.expected "value")
  | fuel + 1 => do
    match ← string? fuel with
    | some text => return .string text
    | none =>
      if ← Scan.accept "[" then
        let inner ← enter depth
        skipLines fuel
        return .array (← arrayItems inner fuel)
      else if ← Scan.accept "\x7b" then
        let inner ← enter depth
        skipLines fuel
        let table ← inlineEntries inner fuel []
        return .table (entriesToValues table)
      else
        word

/-- The items of an array, after its opening bracket. -/
def arrayItems (depth : Nat) : Nat → Scan (List Value)
  | 0 => throw (.expected "]")
  | fuel + 1 => do
    if ← Scan.accept "]" then
      return []
    let item ← value depth fuel
    skipLines fuel
    if ← Scan.accept "," then
      skipLines fuel
      return item :: (← arrayItems depth fuel)
    else
      Scan.expect ']'
      return [item]

/-- The entries of an inline table, after its opening brace, on top of those
read before. Lines may end anywhere but inside a dotted key. -/
def inlineEntries (depth : Nat) : Nat → Table → Scan Table
  | 0, _ => throw (.expected "closing brace")
  | fuel + 1, table => do
    if ← Scan.accept "\x7d" then
      return table
    let keys ← dottedKey fuel
    skipLines fuel
    Scan.expect '='
    skipLines fuel
    let item ← value depth fuel
    let table ← Table.put item keys table
    skipLines fuel
    if ← Scan.accept "," then
      skipLines fuel
      inlineEntries depth fuel table
    else
      Scan.expect '\x7d'
      return table

end

/-! ## Statements -/

/-- The document so far, and the header that new keys belong to. -/
structure Draft where
  root : Table
  header : List String
  deriving Repr

/-- The end of a statement: white space, a comment, and a line end unless the
document ends. -/
def endStatement : Scan Unit := do
  skipSpaces
  skipComment
  if !(← get).isEmpty then
    if !(← acceptNewline) then
      throw (.expected "line end")

def statement (fuel : Nat) (draft : Draft) : Scan Draft := do
  if ← Scan.accept "[" then
    if (← Scan.peek?) = some '[' then
      throw .tableArray
    let header ← dottedKey fuel
    Scan.expect ']'
    endStatement
    return ⟨← Table.openHeader header draft.root, header⟩
  else
    let keys ← dottedKey fuel
    Scan.expect '='
    skipSpaces
    let item ← value depthLimit fuel
    endStatement
    let root ← Table.putBelow keys item draft.header draft.root
    return { draft with root }

def statements : Nat → Draft → Scan Draft
  | 0, _ => throw (.expected "end")
  | fuel + 1, draft => do
    skipLines fuel
    if (← get).isEmpty then
      return draft
    statements fuel (← statement fuel draft)

/-- The entries of a document. A byte order mark in front does not count. -/
def parse (source : String) : Except Problem (List (String × Value)) := do
  let text :=
    match source.toList with
    | '\uFEFF' :: rest => rest
    | text => text
  let (draft, _) ← (statements (text.length + 2) ⟨[], []⟩).run text
  return entriesToValues draft.root

end KeymapViewer.Toml
