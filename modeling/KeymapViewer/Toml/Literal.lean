import KeymapViewer.Text.Numeral
import KeymapViewer.Markup.Entity
import KeymapViewer.Toml.Value

/-!
The literals of TOML: strings, and the values that are written as one word.
-/

namespace KeymapViewer.Toml

open Text

/-- Reading with what is left of the text as state. -/
abbrev Scan (α : Type) : Type := StateT (List Char) (Except Problem) α

namespace Scan

def peek? : Scan (Option Char) := return (← get).head?

def next (what : String) : Scan Char := do
  match ← get with
  | [] => throw (.expected what)
  | c :: rest =>
    set rest
    return c

def expect (c : Char) : Scan Unit := do
  if (← next (String.singleton c)) ≠ c then
    throw (.expected (String.singleton c))

def takeWhile (p : Char → Bool) : Scan (List Char) := do
  let text ← get
  set (text.dropWhile p)
  return text.takeWhile p

def accept (text : String) : Scan Bool := do
  match text.toList.isPrefixOf? (← get) with
  | some rest =>
    set rest
    return true
  | none => return false

end Scan

def isSpace (c : Char) : Bool := c == ' ' || c == '\t'

/-- Control characters other than the tab may stand nowhere. -/
def isControl (c : Char) : Bool :=
  (c.toNat < 0x20 && c != '\t') || c.toNat = 0x7F

def acceptNewline : Scan Bool := do
  if ← Scan.accept "\r\n" then return true
  else Scan.accept "\n"

/-! ## Strings -/

/-- The character whose code point is written by so many hexadecimal
digits. -/
def hexEscape (count : Nat) : Scan Char := do
  let text ← get
  let digits := text.take count
  set (text.drop count)
  if digits.length < count || digits.contains '+' then
    throw .badEscape
  match (readNat? 16 (wordCount 32) digits).bind Markup.scalar? with
  | some c => return c
  | none => throw .badEscape

def escape : Scan Char := do
  match ← Scan.next "escape" with
  | 'b' => return '\x08'
  | 't' => return '\t'
  | 'n' => return '\n'
  | 'f' => return '\x0c'
  | 'r' => return '\r'
  | 'e' => return '\x1b'
  | '"' => return '"'
  | '\\' => return '\\'
  | 'x' => hexEscape 2
  | 'u' => hexEscape 4
  | 'U' => hexEscape 8
  | _ => throw .badEscape

/-- A string on one line, after its opening quote. -/
def basicString : Nat → Scan (List Char)
  | 0 => throw (.expected "quote")
  | fuel + 1 => do
    match ← Scan.next "quote" with
    | '"' => return []
    | '\\' =>
      let c ← escape
      return c :: (← basicString fuel)
    | c =>
      if isControl c then
        throw .controlCharacter
      return c :: (← basicString fuel)

def literalString : Scan (List Char) := do
  let text ← Scan.takeWhile (· != '\'')
  Scan.expect '\''
  if text.any isControl then
    throw .controlCharacter
  return text

/-- The end of a string over several lines: three quotes, with up to two more
in front that belong to the string. There is no result elsewhere. -/
def closing? (quote : Char) : Scan (Option (List Char)) := do
  let text ← get
  let count := (text.takeWhile (· == quote)).length.min 5
  if 3 ≤ count then
    set (text.drop count)
    return some (List.replicate (count - 3) quote)
  else
    return none

def lineChar (c : Char) : Scan (List Char) := do
  if c = '\n' then return ['\n']
  else if c = '\r' then
    Scan.expect '\n'
    return ['\r', '\n']
  else if isControl c then
    throw .controlCharacter
  else
    return [c]

/-- Whether a backslash stands at the end of its line. -/
def endsLine (text : List Char) : Bool :=
  match text.dropWhile isSpace with
  | '\n' :: _ | '\r' :: '\n' :: _ => true
  | _ => false

/-- A string over several lines, after its opening quotes. A backslash at the
end of a line takes all white space after it away. -/
def multilineString : Nat → Scan (List Char)
  | 0 => throw (.expected "quotes")
  | fuel + 1 => do
    match ← closing? '"' with
    | some quotes => return quotes
    | none =>
      match ← Scan.next "quotes" with
      | '\\' =>
        if endsLine (← get) then
          let blanks ← Scan.takeWhile fun c => isSpace c || c == '\n' || c == '\r'
          if blanks.any (· == '\r') && !carriageReturnsEndLines blanks then
            throw .controlCharacter
          multilineString fuel
        else
          let c ← escape
          return c :: (← multilineString fuel)
      | c =>
        let text ← lineChar c
        return text ++ (← multilineString fuel)
where
  /-- Whether every carriage return stands in front of a line feed. -/
  carriageReturnsEndLines : List Char → Bool
    | '\r' :: '\n' :: rest => carriageReturnsEndLines rest
    | '\r' :: _ => false
    | _ :: rest => carriageReturnsEndLines rest
    | [] => true

/-- A string without escapes over several lines, after its opening quotes. -/
def multilineLiteral : Nat → Scan (List Char)
  | 0 => throw (.expected "quotes")
  | fuel + 1 => do
    match ← closing? '\'' with
    | some quotes => return quotes
    | none =>
      let text ← lineChar (← Scan.next "quotes")
      return text ++ (← multilineLiteral fuel)

/-- The characters of a string of any kind, if one begins here. A line end
right after three opening quotes does not belong to it. -/
def quotedChars? (fuel : Nat) : Scan (Option (List Char)) := do
  if ← Scan.accept "\"\"\"" then
    let _ ← acceptNewline
    return some (← multilineString fuel)
  if ← Scan.accept "'''" then
    let _ ← acceptNewline
    return some (← multilineLiteral fuel)
  if ← Scan.accept "\"" then
    return some (← basicString fuel)
  if ← Scan.accept "'" then
    return some (← literalString)
  return none

def string? (fuel : Nat) : Scan (Option String) := do
  return (← quotedChars? fuel).map String.ofList

/-! ## Numbers -/

/-- Digits with single underscores between them. -/
def spacedDigits? (isDigit : Char → Bool) (text : List Char) :
    Option (List Char) :=
  let groups := text.splitOn '_'
  if groups.all fun group => !group.isEmpty && group.all isDigit then
    some groups.flatten
  else
    none

/-- A number without sign: zero, or digits that do not begin with zero. -/
def decimal? (text : List Char) : Option Nat :=
  match spacedDigits? Char.isDigit text with
  | some ['0'] => some 0
  | some ('0' :: _) => none
  | some digits => digitsValue? 10 0 digits
  | none => none

def isDigitOf (base : Nat) (c : Char) : Bool :=
  match digitValue? c with
  | some digit => digit < base
  | none => false

/-- Whether every underscore stands between two characters of a class. -/
def underscoresBetween (p : Char → Bool) (text : List Char) : Bool :=
  let groups := text.splitOn '_'
  groups.dropLast.all (·.getLast?.any p) && groups.tail.all (·.head?.any p)

/-- What the digits of an integer write. A text with the shape of an integer
is a value even if it writes none; it is then of no use to any setting. -/
def integerValue (base : Nat) (sign : Int) (text : List Char) : Value :=
  match text.filter (· != '_') with
  | [] => .other (String.ofList text)
  | digits =>
    match digitsValue? base 0 digits with
    | some value => .integer (sign * value)
    | none => .other (String.ofList text)

def isFloatMark (c : Char) : Bool := c == '.' || c == 'e' || c == 'E'

/-- Whether a text without sign has the shape of an integer: digits that do
not begin with zero, after which an underscore can lead to anything but a
fraction or an exponent. -/
def isIntegerShape (text : List Char) : Bool :=
  let rest := text.dropWhile Char.isDigit
  text.head?.any Char.isDigit && (text = ['0'] || text.head? != some '0') &&
    (rest.isEmpty || rest.head? = some '_') && !rest.any isFloatMark &&
    underscoresBetween (isDigitOf 16) text

/-- An integer after the mark of its base. -/
def radix? (base : Nat) (text : List Char) : Option Value :=
  if text.all (fun c => c == '_' || isDigitOf base c) &&
      underscoresBetween (isDigitOf base) text then
    some (integerValue base 1 text)
  else
    none

def decimalInteger? (sign : Int) (text : List Char) : Option Value :=
  if isIntegerShape text then some (integerValue 10 sign text) else none

def integer? (text : List Char) : Option Value :=
  match text with
  | '0' :: 'x' :: rest => radix? 16 rest
  | '0' :: 'o' :: rest => radix? 8 rest
  | '0' :: 'b' :: rest => radix? 2 rest
  | '-' :: rest => decimalInteger? (-1) rest
  | '+' :: rest => decimalInteger? 1 rest
  | _ => decimalInteger? 1 text

def unsigned (text : List Char) : List Char :=
  match text with
  | '-' :: rest | '+' :: rest => rest
  | _ => text

/-- Whether a text is a float: a fraction, an exponent or both after a whole
number, or one of the words for infinity and no number. -/
def isFloat (text : List Char) : Bool :=
  let body := unsigned text
  if body = "inf".toList || body = "nan".toList then true
  else
    let isExponent := fun c => c == 'e' || c == 'E'
    let mantissa := body.takeWhile (!isExponent ·)
    let exponentOk :=
      match body.dropWhile (!isExponent ·) with
      | [] => true
      | _ :: exponent =>
        (spacedDigits? Char.isDigit (unsigned exponent)).isSome
    let whole := mantissa.takeWhile (· != '.')
    let fractionOk :=
      match mantissa.dropWhile (· != '.') with
      | [] => mantissa.length < body.length
      | _ :: fraction => (spacedDigits? Char.isDigit fraction).isSome
    (decimal? whole).isSome && fractionOk && exponentOk

/-! ## Dates and times -/

/-- A number of exactly so many digits, between bounds. -/
def field? (length low high : Nat) (text : List Char) : Option Nat :=
  if text.length = length && text.all Char.isDigit then
    (digitsValue? 10 0 text).filter fun n => low ≤ n && n ≤ high
  else
    none

def isLeapYear (year : Nat) : Bool :=
  year % 4 = 0 && (year % 100 != 0 || year % 400 = 0)

def daysOfMonth (year month : Nat) : Nat :=
  if month = 2 then if isLeapYear year then 29 else 28
  else if month ∈ [4, 6, 9, 11] then 30
  else 31

def isDate (text : List Char) : Bool :=
  match text.splitOn '-' with
  | [year, month, day] =>
    match field? 4 0 9999 year, field? 2 1 12 month with
    | some year, some month =>
      (field? 2 1 (daysOfMonth year month) day).isSome
    | _, _ => false
  | _ => false

def isSecond (text : List Char) : Bool :=
  match text.splitOn '.' with
  | [second] => (field? 2 0 60 second).isSome
  | [second, fraction] =>
    (field? 2 0 60 second).isSome && !fraction.isEmpty &&
      fraction.all Char.isDigit
  | _ => false

def isClock (text : List Char) : Bool :=
  match text.splitOn ':' with
  | [hour, minute] =>
    (field? 2 0 23 hour).isSome && (field? 2 0 59 minute).isSome
  | [hour, minute, second] =>
    (field? 2 0 23 hour).isSome && (field? 2 0 59 minute).isSome &&
      isSecond second
  | _ => false

/-- A time of day, with or without an offset. -/
def isTime (offsetAllowed : Bool) (text : List Char) : Bool :=
  if isClock text then true
  else if !offsetAllowed then false
  else if text.getLast? = some 'Z' || text.getLast? = some 'z' then
    isClock text.dropLast
  else
    let isSign := fun c => c == '+' || c == '-'
    isClock (text.takeWhile (!isSign ·)) &&
      match (text.dropWhile (!isSign ·)).drop 1 |>.splitOn ':' with
      | [hour, minute] =>
        (field? 2 0 23 hour).isSome && (field? 2 0 59 minute).isSome
      | _ => false

def isMoment (text : List Char) : Bool :=
  if isDate text || isTime false text then true
  else
    isDate (text.take 10) &&
      match text.drop 10 with
      | c :: time => (c == 'T' || c == 't' || c == ' ') && isTime true time
      | [] => false

/-! ## Words -/

def endsWord (c : Char) : Bool :=
  c ∈ ['=', ',', '[', ']', '\x7b', '\x7d', ' ', '\t', '#', '\r', '\n']

/-- A value that is written as one word. A date may go on after a space. -/
def word : Scan Value := do
  let first ← Scan.takeWhile (!endsWord ·)
  let text ←
    match ← get with
    | ' ' :: c :: _ =>
      if isDate first && c.isDigit then
        let _ ← Scan.next "space"
        pure (first ++ ' ' :: (← Scan.takeWhile (!endsWord ·)))
      else
        pure first
    | _ => pure first
  if text = "true".toList then return .boolean true
  else if text = "false".toList then return .boolean false
  else
    match integer? text with
    | some value => return value
    | none =>
      if isFloat text || isMoment text then
        return .other (String.ofList text)
      else
        throw (.badLiteral (String.ofList text))

end KeymapViewer.Toml
