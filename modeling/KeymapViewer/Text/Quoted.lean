import KeymapViewer.Text.Glyph

/-!
Texts in double quotes, as messages show them. What would end the quotes,
start an escape or not show is escaped.
-/

namespace KeymapViewer.Text

/-- The escape of a character by its code point, in lower-case hexadecimal. -/
def codeEscape (c : Char) : List Char :=
  "\\u\x7b".toList ++ Nat.toDigits 16 c.toNat ++ ['\x7d']

/-- A character as it stands between double quotes. -/
def quotedChar (c : Char) : List Char :=
  match c with
  | '"' => ['\\', '"']
  | '\\' => ['\\', '\\']
  | '\n' => ['\\', 'n']
  | '\r' => ['\\', 'r']
  | '\t' => ['\\', 't']
  | '\x00' => ['\\', '0']
  | _ =>
    if c.toNat < 0x20 || c.toNat = 0x7F || (0x80 ≤ c.toNat && isHidden c) then
      codeEscape c
    else
      [c]

def quoted (text : String) : String :=
  String.ofList <| '"' :: text.toList.flatMap quotedChar ++ ['"']

end KeymapViewer.Text
