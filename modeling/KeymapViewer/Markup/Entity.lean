import KeymapViewer.Text.Numeral

/-!
Character references in markup: the escapes that writing needs and the
references that reading resolves.
-/

namespace KeymapViewer.Markup

/-- The text inside double quotes of an attribute. -/
def escapeAttribute (value : List Char) : List Char :=
  value.flatMap fun
    | '&' => "&amp;".toList
    | '"' => "&quot;".toList
    | c => [c]

/-- The text between tags. -/
def escapeText (text : List Char) : List Char :=
  text.flatMap fun
    | '&' => "&amp;".toList
    | '<' => "&lt;".toList
    | '>' => "&gt;".toList
    | c => [c]

/-- The character with a code point, if there is one. -/
def scalar? (code : Nat) : Option Char :=
  if valid : code.isValidChar then some (Char.ofNatAux code valid) else none

def namedCharacters : List (String × Char) :=
  [("amp", '&'), ("lt", '<'), ("gt", '>'), ("quot", '"'), ("apos", '\''),
    ("nbsp", Char.ofNat 0xA0)]

/-- The character that the text between `&` and `;` refers to by its code
point, in hexadecimal after `#x` or `#X` and in decimal after `#`. -/
def numbered? (entity : List Char) : Option Char :=
  let code? :=
    match entity with
    | '#' :: 'x' :: digits | '#' :: 'X' :: digits =>
      Text.readNat? 16 (wordCount 32) digits
    | '#' :: digits => Text.readNat? 10 (wordCount 32) digits
    | _ => none
  code?.bind scalar?

/-- The character that the text between `&` and `;` refers to. -/
def entity? (entity : List Char) : Option Char :=
  match namedCharacters.lookup (String.ofList entity) with
  | some c => some c
  | none => numbered? entity

def entityLimit : Nat := 9

/-- The character that the text after `&` starts to refer to, and the text
after the reference. -/
def reference? (text : List Char) : Option (Char × List Char) :=
  let entity := text.takeWhile (· != ';')
  if entity.length ≤ entityLimit && entity.length < text.length then
    (entity? entity).map (·, text.drop (entity.length + 1))
  else
    none

theorem length_reference?_lt {text rest : List Char} {c : Char}
    (found : reference? text = some (c, rest)) :
    rest.length < text.length := by
  unfold reference? at found
  simp only [Bool.and_eq_true, decide_eq_true_eq] at found
  split at found
  · simp only [Option.map_eq_some_iff, Prod.mk.injEq] at found
    obtain ⟨_, _, _, rfl⟩ := found
    simp only [List.length_drop]
    omega
  · simp at found

/-- Resolves every reference, and leaves everything else as it is. -/
def decodeEntities : List Char → List Char
  | [] => []
  | '&' :: text =>
    match _found : reference? text with
    | some (c, rest) => c :: decodeEntities rest
    | none => '&' :: decodeEntities text
  | c :: text => c :: decodeEntities text
termination_by text => text.length
decreasing_by
  · have := length_reference?_lt _found
    simp only [List.length_cons]
    omega
  · simp
  · simp

end KeymapViewer.Markup
