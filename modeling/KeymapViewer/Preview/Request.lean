import KeymapViewer.Text.Blank
import KeymapViewer.Text.Search
import KeymapViewer.Text.Utf8

/-!
Requests: a first line with a method and a target, then lines that are read
up to an empty one and do not matter.
-/

namespace KeymapViewer.Preview

open Text

structure Request where
  method : String
  target : String
  deriving DecidableEq, Repr

/-- A line of a request is no text. -/
inductive Request.Malformed where
  | notText
  deriving DecidableEq, Repr

namespace Request

/-- The lines of a stream of bytes, each with its line feed. -/
def lines (bytes : Bytes) : List Bytes :=
  bytes.foldr (fun byte lines =>
    match byte == 0x0A, lines with
    | false, line :: rest => (byte :: line) :: rest
    | _, lines => [byte] :: lines) []

/-- The line that ends a request. -/
def emptyLine : Bytes := [0x0D, 0x0A]

/-- The lines that are read: the first one, and those in front of an empty
line. -/
def headLines (bytes : Bytes) : List Bytes :=
  match lines bytes with
  | [] => []
  | first :: rest => first :: rest.takeWhile (· != emptyLine)

/-- Whether nothing that comes after these bytes matters. -/
def isComplete (bytes : Bytes) : Bool :=
  (lines bytes).tail.contains emptyLine

/-- Reads a request. There is none unless the first line names a method and
a target. -/
def read (bytes : Bytes) : Except Malformed (Option Request) :=
  match (headLines bytes).mapM Utf8.decode? with
  | none => .error .notText
  | some [] => .ok none
  | some (first :: _) =>
    match words first.toList with
    | method :: target :: _ =>
      .ok (some ⟨String.ofList method, String.ofList target⟩)
    | _ => .ok none

/-- The path of a target, and its query with the question mark. -/
def splitTarget (target : String) : String × String :=
  let (path, query) :=
    breakBefore (·.head? == some '?') target.toList
  (String.ofList path, String.ofList query)

end Request

end KeymapViewer.Preview
