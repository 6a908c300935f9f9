/-!
Values of TOML documents, and tables that grow statement by statement. A
table remembers how it came about, since that decides who may add to it.
-/

namespace KeymapViewer.Toml

inductive Value where
  | string (text : String)
  | integer (value : Int)
  | boolean (value : Bool)
  /-- A float, a date, a time or an integer without a value, as it is
  written. -/
  | other (text : String)
  | array (items : List Value)
  | table (entries : List (String × Value))
  deriving Repr

inductive Problem where
  | expected (what : String)
  | controlCharacter
  | badEscape
  | badLiteral (text : String)
  | duplicateKey (key : String)
  /-- Arrays of tables have no use here. -/
  | tableArray
  | tooDeep
  | unknownKey (key : String)
  | wrongType (key : String)
  deriving DecidableEq, Repr

def Problem.message : Problem → String
  | .expected what => "expected " ++ what
  | .controlCharacter => "control character"
  | .badEscape => "invalid escape sequence"
  | .badLiteral text => s!"invalid value '{text}'"
  | .duplicateKey key => s!"duplicate key '{key}'"
  | .tableArray => "array of tables"
  | .tooDeep => "too many values inside each other"
  | .unknownKey key => s!"unknown field '{key}'"
  | .wrongType key => s!"invalid type for '{key}'"

/-- How a table under construction came about. -/
inductive Origin where
  /-- As the outer table of a header. -/
  | implied
  /-- By a header of its own. -/
  | header
  /-- As an outer key of a dotted key. -/
  | dotted
  deriving DecidableEq, Repr

inductive Node where
  | value (value : Value)
  | table (origin : Origin) (entries : List (String × Node))
  deriving Repr

abbrev Table := List (String × Node)

namespace Table

/-- Replaces the entry of a key that is there. -/
def replace (key : String) (node : Node) (table : Table) : Table :=
  table.map fun entry => if entry.1 == key then (key, node) else entry

/-- Adds a value under a dotted key. Only tables made by dotted keys are
added to. -/
def put (value : Value) : List String → Table → Except Problem Table
  | [], _ => .error (.expected "key")
  | [key], table =>
    match table.lookup key with
    | none => .ok (table ++ [(key, .value value)])
    | some _ => .error (.duplicateKey key)
  | key :: path, table =>
    match table.lookup key with
    | none => do
      let inner ← put value path []
      return table ++ [(key, .table .dotted inner)]
    | some (.table .dotted inner) => do
      let inner ← put value path inner
      return replace key (.table .dotted inner) table
    | some _ => .error (.duplicateKey key)

/-- Makes the table of a header. -/
def openHeader : List String → Table → Except Problem Table
  | [], _ => .error (.expected "key")
  | [key], table =>
    match table.lookup key with
    | none => .ok (table ++ [(key, .table .header [])])
    | some (.table .implied inner) =>
      .ok (replace key (.table .header inner) table)
    | some _ => .error (.duplicateKey key)
  | key :: path, table =>
    match table.lookup key with
    | none => do
      let inner ← openHeader path []
      return table ++ [(key, .table .implied inner)]
    | some (.table origin inner) => do
      let inner ← openHeader path inner
      return replace key (.table origin inner) table
    | some (.value _) => .error (.duplicateKey key)

/-- Adds a value under a dotted key in the table of a header. -/
def putBelow (keys : List String) (value : Value) :
    List String → Table → Except Problem Table
  | [], table => put value keys table
  | key :: header, table =>
    match table.lookup key with
    | some (.table origin inner) => do
      let inner ← putBelow keys value header inner
      return replace key (.table origin inner) table
    | _ => .error (.duplicateKey key)

end Table

mutual

/-- The value of a finished table. -/
def Node.toValue : Node → Value
  | .value value => value
  | .table _ entries => .table (entriesToValues entries)

def entriesToValues : List (String × Node) → List (String × Value)
  | [] => []
  | (key, node) :: rest => (key, node.toValue) :: entriesToValues rest

end

end KeymapViewer.Toml
