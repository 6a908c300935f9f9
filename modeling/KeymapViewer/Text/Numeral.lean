import KeymapViewer.Word

/-!
Reading unsigned numerals. A numeral is an optional plus sign and at least
one digit, and its value has to stay below a limit.
-/

namespace KeymapViewer.Text

/-- The value of a digit up to the letter `z` in either case. -/
def digitValue? (c : Char) : Option Nat :=
  if c.isDigit then some (c.toNat - '0'.toNat)
  else if c.isLower then some (c.toNat - 'a'.toNat + 10)
  else if c.isUpper then some (c.toNat - 'A'.toNat + 10)
  else none

/-- The value of digits in a base, most significant first, on top of the
digits already read. -/
def digitsValue? (base : Nat) : Nat → List Char → Option Nat
  | value, [] => some value
  | value, c :: rest =>
    match digitValue? c with
    | some digit =>
      if digit < base then digitsValue? base (value * base + digit) rest
      else none
    | none => none

/-- Reads a numeral whose value is below `limit`. -/
def readNat? (base limit : Nat) (numeral : List Char) : Option Nat :=
  let digits :=
    match numeral with
    | '+' :: rest => rest
    | other => other
  if digits.isEmpty then none
  else
    match digitsValue? base 0 digits with
    | some value => if value < limit then some value else none
    | none => none

/-- Reads a decimal numeral that fits into a word of so many bits. -/
def readWord? (bits : Nat) (numeral : String) : Option Nat :=
  readNat? 10 (wordCount bits) numeral.toList

end KeymapViewer.Text
