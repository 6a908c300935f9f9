import KeymapViewer.Fault
import KeymapViewer.Text.Numeral
import KeymapViewer.Text.Utf8

/-!
The query of an address: the values of its variables and the decoding of
percent escapes.
-/

namespace KeymapViewer.Query

open Text

/-- The value that a pair gives to a variable: what stands between its first
and its second equals sign. -/
def pairValue? (name : List Char) (pair : List Char) :
    Option (List Char) :=
  match pair.splitOn '=' with
  | key :: value :: _ => if key == name then some value else none
  | _ => none

def pairs (query : List Char) : List (List Char) :=
  match query with
  | '?' :: rest => rest.splitOn '&'
  | _ => query.splitOn '&'

/-- The value of a variable, still encoded, from the first pair that has
one. -/
def value? (query name : String) : Option String :=
  ((pairs query.toList).findSome? (pairValue? name.toList)).map String.ofList

/-- The byte that two hexadecimal digits write. -/
def hexByte? (high low : UInt8) : Option UInt8 :=
  let digit? (byte : UInt8) : Option Nat :=
    (digitValue? (Char.ofNat byte.toNat)).filter (· < 16)
  match digit? high, digit? low with
  | some high, some low => some (high * 16 + low).toUInt8
  | _, _ => none

/-- Resolves every percent escape; there is no result when a percent sign
starts none. -/
def unescape? : Bytes → Option Bytes
  | [] => some []
  | 0x25 :: high :: low :: rest =>
    match hexByte? high low with
    | some byte => (unescape? rest).map (byte :: ·)
    | none => none
  | byte :: rest =>
    if byte = 0x25 then none else (unescape? rest).map (byte :: ·)

def malformed (component : String) : Fault :=
  .config s!"Malformed URI component '{component}'"

/-- Decodes a component of an address. A plus sign stands for itself. -/
def decodeComponent (component : String) : Except Fault String :=
  match (unescape? (Utf8.encode component)).bind Utf8.decode? with
  | some text => .ok text
  | none => .error (malformed component)

end KeymapViewer.Query
