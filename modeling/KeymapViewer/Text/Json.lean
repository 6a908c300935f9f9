/-!
JSON texts, on one line or indented by two spaces a level.
-/

namespace KeymapViewer

inductive JsonValue where
  | null
  | bool (value : Bool)
  | number (value : Nat)
  | string (text : String)
  | array (items : List JsonValue)
  | object (members : List (String × JsonValue))
  deriving Repr

namespace JsonValue

def ofOption (encode : α → JsonValue) : Option α → JsonValue
  | some value => encode value
  | none => .null

def hexDigit (n : Nat) : Char := Nat.digitChar (n % 16)

/-- A character as it stands in a JSON string: quotes, backslashes and
control characters are escaped, all others stand for themselves. -/
def escapeChar (c : Char) : List Char :=
  match c with
  | '"' => ['\\', '"']
  | '\\' => ['\\', '\\']
  | '\n' => ['\\', 'n']
  | '\r' => ['\\', 'r']
  | '\t' => ['\\', 't']
  | '\x08' => ['\\', 'b']
  | '\x0c' => ['\\', 'f']
  | _ =>
    if c.toNat < 0x20 then
      ['\\', 'u', '0', '0', hexDigit (c.toNat / 16), hexDigit c.toNat]
    else
      [c]

def quote (text : String) : String :=
  String.ofList ('"' :: text.toList.flatMap escapeChar ++ ['"'])

def scalar : JsonValue → String
  | .null => "null"
  | .bool true => "true"
  | .bool false => "false"
  | .number value => toString value
  | .string text => quote text
  | .array _ => "[]"
  | .object _ => "\x7b\x7d"

mutual

/-- The text on one line, without spaces. -/
def compact : JsonValue → String
  | .array items => "[" ++ ",".intercalate (compactItems items) ++ "]"
  | .object members =>
    "\x7b" ++ ",".intercalate (compactMembers members) ++ "\x7d"
  | other => scalar other

def compactItems : List JsonValue → List String
  | [] => []
  | item :: rest => item.compact :: compactItems rest

def compactMembers : List (String × JsonValue) → List String
  | [] => []
  | (key, value) :: rest =>
    (quote key ++ ":" ++ value.compact) :: compactMembers rest

end

/-- Parts on lines of their own, between brackets. -/
def onLines (indent opening closing : String) (parts : List String) :
    String :=
  let inner := indent ++ "  "
  opening ++ "\n" ++ ",\n".intercalate (parts.map (inner ++ ·)) ++ "\n" ++
    indent ++ closing

mutual

/-- The text over several lines, where the lines after the first begin with
`indent`. -/
def pretty (indent : String) : JsonValue → String
  | .array [] => scalar (.array [])
  | .object [] => scalar (.object [])
  | .array items =>
    onLines indent "[" "]" (prettyItems (indent ++ "  ") items)
  | .object members =>
    onLines indent "\x7b" "\x7d" (prettyMembers (indent ++ "  ") members)
  | other => scalar other

def prettyItems (indent : String) : List JsonValue → List String
  | [] => []
  | item :: rest => item.pretty indent :: prettyItems indent rest

def prettyMembers (indent : String) : List (String × JsonValue) → List String
  | [] => []
  | (key, value) :: rest =>
    (quote key ++ ": " ++ value.pretty indent) :: prettyMembers indent rest

end

end JsonValue

end KeymapViewer
