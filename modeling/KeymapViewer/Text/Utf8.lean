/-!
UTF-8 as a table of byte ranges. A text is written character by character;
a byte sequence is read as a list of pieces, each a character or a run of
bytes that no character starts with. The strict reader accepts sequences
without such runs, the lenient reader puts U+FFFD in place of each.
-/

namespace KeymapViewer.Text

abbrev Bytes := List UInt8

namespace Utf8

def encodeChar (c : Char) : Bytes :=
  let code := c.toNat
  if code < 0x80 then [code.toUInt8]
  else if code < 0x800 then
    [(0xC0 + code / 64).toUInt8, (0x80 + code % 64).toUInt8]
  else if code < 0x10000 then
    [(0xE0 + code / 4096).toUInt8, (0x80 + code / 64 % 64).toUInt8,
      (0x80 + code % 64).toUInt8]
  else
    [(0xF0 + code / 262144).toUInt8, (0x80 + code / 4096 % 64).toUInt8,
      (0x80 + code / 64 % 64).toUInt8, (0x80 + code % 64).toUInt8]

def encodeChars (text : List Char) : Bytes :=
  text.flatMap encodeChar

def encode (text : String) : Bytes :=
  encodeChars text.toList

/-- What a byte sequence begins with. -/
inductive Piece where
  /-- A character of `length` bytes. -/
  | char (c : Char) (length : Nat)
  /-- So many bytes that begin no character. -/
  | stray (length : Nat)
  /-- So many bytes, the last ones there are, that only begin one. -/
  | cutOff (length : Nat)
  deriving DecidableEq, Repr

def Piece.length : Piece → Nat
  | .char _ length | .stray length | .cutOff length => length

/-- The number of further bytes that the first byte of a character asks for,
and the range of the second byte. -/
def lead? (first : Nat) : Option (Nat × Nat × Nat) :=
  if 0xC2 ≤ first ∧ first ≤ 0xDF then some (1, 0x80, 0xBF)
  else if first = 0xE0 then some (2, 0xA0, 0xBF)
  else if first = 0xED then some (2, 0x80, 0x9F)
  else if 0xE1 ≤ first ∧ first ≤ 0xEF then some (2, 0x80, 0xBF)
  else if first = 0xF0 then some (3, 0x90, 0xBF)
  else if 0xF1 ≤ first ∧ first ≤ 0xF3 then some (3, 0x80, 0xBF)
  else if first = 0xF4 then some (3, 0x80, 0x8F)
  else none

/-- Reads the bytes after the first one: `owed` of them, the next one between
`low` and `high`, all later ones continuation bytes. -/
def follow (code seen low high : Nat) : Nat → Bytes → Piece
  | 0, _ => .char (Char.ofNat code) seen
  | _ + 1, [] => .cutOff seen
  | owed + 1, byte :: rest =>
    if low ≤ byte.toNat ∧ byte.toNat ≤ high then
      follow (code * 64 + byte.toNat % 64) (seen + 1) 0x80 0xBF owed rest
    else
      .stray seen

/-- The piece that a nonempty byte sequence begins with. -/
def piece (first : UInt8) (rest : Bytes) : Piece :=
  let code := first.toNat
  if code < 0x80 then .char (Char.ofNat code) 1
  else
    match lead? code with
    | none => .stray 1
    | some (owed, low, high) =>
      let mask := if owed = 1 then 32 else if owed = 2 then 16 else 8
      follow (code % mask) 1 low high owed rest

def pieces : Bytes → List Piece
  | [] => []
  | first :: rest =>
    let head := piece first rest
    head :: pieces (rest.drop (head.length - 1))
termination_by bytes => bytes.length
decreasing_by simp only [List.length_drop, List.length_cons]; omega

inductive Fault where
  /-- `length` bytes from `index` on begin no character. -/
  | invalid (length index : Nat)
  /-- The sequence ends inside the character that starts at `index`. -/
  | incomplete (index : Nat)
  deriving DecidableEq, Repr

def Fault.message : Fault → String
  | .invalid length index =>
    s!"invalid utf-8 sequence of {length} bytes from index {index}"
  | .incomplete index =>
    s!"incomplete utf-8 byte sequence from index {index}"

/-- Puts pieces together, where the first one starts at `index`. -/
def assemble (index : Nat) : List Piece → Except Fault (List Char)
  | [] => .ok []
  | .char c length :: rest =>
    match assemble (index + length) rest with
    | .ok text => .ok (c :: text)
    | .error fault => .error fault
  | .stray length :: _ => .error (.invalid length index)
  | .cutOff _ :: _ => .error (.incomplete index)

/-- Reads a byte sequence as a text. -/
def decode (bytes : Bytes) : Except Fault String :=
  (assemble 0 (pieces bytes)).map String.ofList

def decode? (bytes : Bytes) : Option String :=
  (decode bytes).toOption

/-- The character that stands for bytes that are none. -/
def replacement : Char := Char.ofNat 0xFFFD

/-- Reads any byte sequence, with U+FFFD for each piece that is no
character. -/
def decodeLenient (bytes : Bytes) : String :=
  String.ofList <| (pieces bytes).map fun
    | .char c _ => c
    | .stray _ | .cutOff _ => replacement

end Utf8

def byteLength (text : String) : Nat :=
  (Utf8.encode text).length

end KeymapViewer.Text
