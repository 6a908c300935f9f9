/-!
Cutting a text at the places where something else begins. Every cut keeps
all characters: the parts, put together, are the text again.
-/

namespace KeymapViewer.Text

/-- Splits a text before its first nonempty suffix that satisfies `found`.
Without one the whole text is the first part. -/
def breakBefore (found : List Char → Bool) :
    List Char → List Char × List Char
  | [] => ([], [])
  | c :: rest =>
    if found (c :: rest) then ([], c :: rest)
    else
      let (before, after) := breakBefore found rest
      (c :: before, after)

theorem breakBefore_append (found : List Char → Bool) (text : List Char) :
    (breakBefore found text).1 ++ (breakBefore found text).2 = text := by
  induction text with
  | nil => rfl
  | cons c rest ih =>
      simp only [breakBefore]
      split
      · rfl
      · simp [ih]

theorem length_breakBefore_snd_le
    (found : List Char → Bool) (text : List Char) :
    (breakBefore found text).2.length ≤ text.length := by
  have whole := congrArg List.length (breakBefore_append found text)
  simp only [List.length_append] at whole
  omega

/-- Splits a text around the first occurrence of `separator`. -/
def cut? (separator text : List Char) : Option (List Char × List Char) :=
  match breakBefore (separator.isPrefixOf ·) text with
  | (_, []) => none
  | (before, after) => some (before, after.drop separator.length)

/-- Splits a text around the last occurrence of `separator`. -/
def cutLast? (separator : List Char) :
    List Char → Option (List Char × List Char)
  | [] => none
  | c :: rest =>
    match cutLast? separator rest with
    | some (before, after) => some (c :: before, after)
    | none =>
      if separator.isPrefixOf (c :: rest) then
        some ([], (c :: rest).drop separator.length)
      else
        none

/-- Whether `part` occurs somewhere in the text. -/
def contains (part : List Char) : List Char → Bool
  | [] => part.isEmpty
  | c :: rest => part.isPrefixOf (c :: rest) || contains part rest

/-- Equality up to the case of ASCII letters. -/
def sameIgnoringCase (first second : List Char) : Bool :=
  first.map Char.toLower == second.map Char.toLower

end KeymapViewer.Text
