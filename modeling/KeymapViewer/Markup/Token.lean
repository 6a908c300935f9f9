import KeymapViewer.Markup.Entity
import KeymapViewer.Text.Blank
import KeymapViewer.Text.Search

/-!
The tokens of HTML and inline SVG: tags, text, comments and declarations.
Reading never fails. Names keep their case, values of attributes are decoded,
and text stays exactly as it is written.
-/

namespace KeymapViewer.Markup

open Text

structure Attribute where
  name : String
  value : String
  deriving DecidableEq, Repr

inductive Token where
  | startTag (name : String) (attributes : List Attribute)
      (selfClosing : Bool)
  | endTag (name : String)
  /-- Text as it is written, references unresolved. -/
  | text (text : String)
  | comment (text : String)
  /-- What stands between `<!` and `>`. -/
  | declaration (text : String)
  deriving DecidableEq, Repr

/-- The elements that never have content. -/
def voidElements : List String :=
  ["area", "base", "br", "col", "embed", "hr", "img", "input", "link",
    "meta", "source", "track", "wbr"]

/-- The elements whose content is text up to their own end tag. -/
def rawTextElements : List String :=
  ["script", "style", "textarea", "title"]

/-- Equality of tag names, which ignores the case of ASCII letters. -/
def sameName (first second : String) : Bool :=
  sameIgnoringCase first.toList second.toList

def isVoid (name : String) : Bool :=
  voidElements.any (sameName name)

def isRawText (name : String) : Bool :=
  rawTextElements.any (sameName name)

/-! ## Attributes -/

def isQuote (c : Char) : Bool := c == '"' || c == '\''

/-- What may stand between attributes. -/
def isGap (c : Char) : Bool := isBlank c || c == '/'

def endsName (c : Char) : Bool := isGap c || c == '='

/-- The value of an attribute, read after its equals sign and white space:
up to the closing quote, or up to white space where there is no quote. -/
def scanValue : List Char → List Char × List Char
  | [] => ([], [])
  | c :: rest =>
    if isQuote c then
      (rest.takeWhile (· != c), (rest.dropWhile (· != c)).drop 1)
    else
      ((c :: rest).takeWhile (!isBlank ·), (c :: rest).dropWhile (!isBlank ·))

/-- One attribute and what follows it, read from its first character. -/
def scanAttribute (text : List Char) : Attribute × List Char :=
  let name := String.ofList (text.takeWhile (!endsName ·))
  match (text.dropWhile (!endsName ·)).dropWhile isBlank with
  | '=' :: rest =>
    let (value, remaining) := scanValue (rest.dropWhile isBlank)
    (⟨name, String.ofList (decodeEntities value)⟩, remaining)
  | remaining => (⟨name, ""⟩, remaining)

theorem length_dropWhile_le (p : Char → Bool) (text : List Char) :
    (text.dropWhile p).length ≤ text.length :=
  (List.dropWhile_sublist p).length_le

theorem length_scanValue_le (text : List Char) :
    (scanValue text).2.length ≤ text.length := by
  cases text with
  | nil => simp [scanValue]
  | cons c rest =>
      have := length_dropWhile_le (· != c) rest
      have := length_dropWhile_le (!isBlank ·) (c :: rest)
      simp only [scanValue]
      split
      · simp only [List.length_drop, List.length_cons]
        omega
      · assumption

/-- An attribute takes at least one character. -/
theorem length_scanAttribute_lt {c : Char} (notGap : isGap c = false)
    (rest : List Char) :
    (scanAttribute (c :: rest)).2.length < (c :: rest).length := by
  have afterName := length_dropWhile_le (!endsName ·) rest
  have blanks := length_dropWhile_le isBlank
  have values := length_scanValue_le
  unfold scanAttribute
  by_cases equals : c = '='
  · subst equals
    have stop : List.dropWhile (!endsName ·) ('=' :: rest) = '=' :: rest := by
      simp [endsName]
    have keep : List.dropWhile isBlank ('=' :: rest) = '=' :: rest := by
      rw [List.dropWhile_cons_of_neg]
      decide
    simp only [stop, keep]
    have := values (rest.dropWhile isBlank)
    have := blanks rest
    simp only [List.length_cons]
    omega
  · have step : List.dropWhile (!endsName ·) (c :: rest) =
        rest.dropWhile (!endsName ·) := by
      rw [List.dropWhile_cons_of_pos]
      simp [endsName, notGap, equals]
    rw [step]
    have skipped := blanks (rest.dropWhile (!endsName ·))
    split
    · rename_i remaining found
      rw [found] at skipped
      have := values (remaining.dropWhile isBlank)
      have := blanks remaining
      simp only [List.length_cons] at skipped ⊢
      omega
    · simp only [List.length_cons]
      omega

/-- The attributes of a tag, read after its name. Those without a name are
left out. -/
def scanAttributes (text : List Char) : List Attribute :=
  match _found : text.dropWhile isGap with
  | [] => []
  | c :: rest =>
    let next := (scanAttribute (c :: rest)).1
    let others := scanAttributes (scanAttribute (c :: rest)).2
    if next.name.isEmpty then others else next :: others
termination_by text.length
decreasing_by
  have notGap : isGap c = false := by
    have := List.head?_dropWhile_not isGap text
    simpa [_found] using this
  have shorter := length_scanAttribute_lt notGap rest
  have skipped := length_dropWhile_le isGap text
  rw [_found] at skipped
  omega

/-! ## Tags -/

/-- Splits the text after `<` at the `>` that ends the tag. A `>` in quotes
does not end it, where `quote` is the quote that is open. -/
def cutTag (quote : Option Char) : List Char → List Char × List Char
  | [] => ([], [])
  | c :: rest =>
    match quote with
    | some q =>
      let (inside, after) := cutTag (if c = q then none else quote) rest
      (c :: inside, after)
    | none =>
      if c = '>' then ([], rest)
      else
        let (inside, after) :=
          cutTag (if isQuote c then some c else none) rest
        (c :: inside, after)

theorem length_cutTag_le (quote : Option Char) (text : List Char) :
    (cutTag quote text).2.length ≤ text.length := by
  induction text generalizing quote with
  | nil => simp [cutTag]
  | cons c rest ih =>
      cases quote with
      | some q =>
          have := ih (if c = q then none else some q)
          simp only [cutTag, List.length_cons]
          omega
      | none =>
          have := ih (if isQuote c then some c else none)
          simp only [cutTag]
          split
          · simp
          · simp only [List.length_cons]
            omega

def cutAtClose (text : List Char) : List Char × List Char :=
  (text.takeWhile (· != '>'), (text.dropWhile (· != '>')).drop 1)

theorem length_cutAtClose_le (text : List Char) :
    (cutAtClose text).2.length ≤ text.length := by
  have := length_dropWhile_le (· != '>') text
  simp only [cutAtClose, List.length_drop]
  omega

/-- The start tag whose inside, between `<` and `>`, is given. A slash at the
end makes it self-closing. -/
def startTag (inside : List Char) : String × List Attribute × Bool :=
  let body := trimEnd inside
  let selfClosing := body.getLast? == some '/'
  let body := if selfClosing then body.dropLast else body
  let name := String.ofList (body.takeWhile (!isGap ·))
  (name, scanAttributes (body.dropWhile (!isGap ·)), selfClosing)

/-- Whether a text begins with an end tag of the given name. -/
def beginsEndTag (name : String) (text : List Char) : Bool :=
  let opening := '<' :: '/' :: name.toList
  sameIgnoringCase opening (text.take opening.length)

/-! ## Reading -/

/-- The tokens of a start tag, read from the text after its `<`, and what
follows them. The content of a raw text element is a token of its own. -/
def scanStart (text : List Char) : List Token × List Char :=
  let after := (cutTag none text).2
  let (name, attributes, selfClosing) := startTag (cutTag none text).1
  let tag := Token.startTag name attributes selfClosing
  if !selfClosing && isRawText name then
    let content := (breakBefore (beginsEndTag name) after).1
    let inside :=
      if content.isEmpty then [] else [Token.text (String.ofList content)]
    (tag :: inside, (breakBefore (beginsEndTag name) after).2)
  else
    ([tag], after)

/-- The tokens that begin at a `<`, read from the text after it, and what
follows them. -/
def scanTag (text : List Char) : List Token × List Char :=
  match text with
  | '!' :: '-' :: '-' :: rest =>
    let (comment, after) := breakBefore ("-->".toList.isPrefixOf ·) rest
    ([.comment (String.ofList comment)], after.drop 3)
  | '!' :: rest =>
    let (declaration, after) := cutAtClose rest
    ([.declaration (String.ofList declaration)], after)
  | '/' :: rest =>
    let (inside, after) := cutAtClose rest
    let name := trim inside
    (if name.isEmpty then [] else [.endTag (String.ofList name)], after)
  | c :: _ => if c.isAlpha then scanStart text else ([.text "<"], text)
  | [] => ([.text "<"], [])

theorem length_scanStart_le (text : List Char) :
    (scanStart text).2.length ≤ text.length := by
  have cut := length_cutTag_le none text
  have content := length_breakBefore_snd_le
    (beginsEndTag (startTag (cutTag none text).1).1) (cutTag none text).2
  unfold scanStart
  simp only
  split
  · simp only
    omega
  · exact cut

theorem length_scanTag_le (text : List Char) :
    (scanTag text).2.length ≤ text.length := by
  unfold scanTag
  split
  · rename_i rest
    have := length_breakBefore_snd_le ("-->".toList.isPrefixOf ·) rest
    simp only [List.length_drop, List.length_cons]
    omega
  · rename_i rest _
    have := length_cutAtClose_le rest
    simp only [List.length_cons]
    omega
  · rename_i rest
    have := length_cutAtClose_le rest
    simp only [List.length_cons]
    omega
  · split
    · exact length_scanStart_le _
    · exact Nat.le_refl _
  · exact Nat.le_refl _

def tokens : List Char → List Token
  | [] => []
  | c :: rest =>
    if c = '<' then
      (scanTag rest).1 ++ tokens (scanTag rest).2
    else
      .text (String.ofList (c :: rest.takeWhile (· != '<'))) ::
        tokens (rest.dropWhile (· != '<'))
termination_by text => text.length
decreasing_by
  · have := length_scanTag_le rest
    simp only [List.length_cons]
    omega
  · have := length_dropWhile_le (· != '<') rest
    simp only [List.length_cons]
    omega

def tokenize (markup : String) : List Token :=
  tokens markup.toList

end KeymapViewer.Markup
