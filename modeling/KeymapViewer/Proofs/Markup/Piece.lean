import KeymapViewer.Proofs.Markup.Settled

/-!
Markup that is put together from pieces. Each piece that is whole is read on
its own, so that the tokens of the markup are those of its pieces; a text has
to end before markup for that.
-/

namespace KeymapViewer.Markup

open Text

inductive Piece where
  /-- Text between tags, as it is written. -/
  | text (content : String)
  | declaration (content : String)
  | comment (content : String)
  /-- A start tag, given by what stands between its brackets. -/
  | startTag (inside : String)
  | endTag (name : String)
  /-- A raw text element without attributes, up to the end of its end tag. -/
  | rawElement (name content : String)
  deriving DecidableEq, Repr

/-- The tokens of a text without tags. -/
def textTokens (content : String) : List Token :=
  if content.toList.isEmpty then [] else [.text content]

/-- Whether a text is the name of a tag up to any character that may come
after it. -/
def isTagName (name : List Char) : Bool :=
  name.head?.any Char.isAlpha &&
    name.all fun c => !isGap c && !isQuote c && c != '<' && c != '>'

namespace Piece

def isText : Piece → Bool
  | text _ => true
  | _ => false

/-- How a piece is written. -/
def source : Piece → List Char
  | text content => content.toList
  | declaration content => "<!".toList ++ content.toList ++ ['>']
  | comment content => "<!--".toList ++ content.toList ++ "-->".toList
  | startTag inside => '<' :: (inside.toList ++ ['>'])
  | endTag name => '<' :: '/' :: (name.toList ++ ['>'])
  | rawElement name content =>
    '<' :: (name.toList ++ '>' ::
      (content.toList ++ '<' :: '/' :: (name.toList ++ ['>'])))

/-- How a piece is read. -/
def read : Piece → List Token
  | text content => textTokens content
  | declaration content => [.declaration content]
  | comment content => [.comment content]
  | startTag inside =>
    let (name, attributes, selfClosing) := Markup.startTag inside.toList
    [.startTag name attributes selfClosing]
  | endTag name => [.endTag name]
  | rawElement name content =>
    .startTag name [] false :: (textTokens content ++ [.endTag name])

theorem source_text (content : String) :
    (text content).source = content.toList :=
  rfl

theorem read_text (content : String) :
    (text content).read = textTokens content :=
  rfl

/-- Whether nothing inside a piece ends it early. -/
def isWhole : Piece → Bool
  | text content => content.toList.all (· != '<')
  | declaration content =>
    content.toList.all (· != '>') && !"--".toList.isPrefixOf content.toList
  | comment content => !occurs ("-->".toList.isPrefixOf ·) content.toList
  | startTag inside =>
    let (name, _, selfClosing) := Markup.startTag inside.toList
    inside.toList.head?.any Char.isAlpha &&
      quoteAfter? none inside.toList == some none &&
      !(!selfClosing && isRawText name)
  | endTag name => isTagName name.toList
  | rawElement name content =>
    isTagName name.toList && isRawText name &&
      !occurs (beginsEndTag name) content.toList

end Piece

/-! ## Names -/

section Name

variable {name : String} (named : isTagName name.toList = true)

include named

theorem exists_letter_of_isTagName :
    ∃ first rest, name.toList = first :: rest ∧ first.isAlpha = true := by
  rw [isTagName, Bool.and_eq_true] at named
  match characters : name.toList with
  | [] =>
      rw [characters] at named
      cases named.1
  | first :: rest =>
      rw [characters] at named
      exact ⟨first, rest, rfl, named.1⟩

theorem plain_of_isTagName :
    ∀ c ∈ name.toList, isGap c = false ∧ isQuote c = false ∧ c ≠ '<' ∧
      c ≠ '>' := by
  intro c member
  rw [isTagName, Bool.and_eq_true, List.all_eq_true] at named
  simpa [and_assoc] using named.2 c member

/-- The element of a name alone. -/
theorem plain_element_of_isTagName :
    (Element.mk name [] false).Plain where
  letter := exists_letter_of_isTagName named
  solid c member := (plain_of_isTagName named c member).1
  attributes item member := by cases member

theorem isSealed_of_isTagName :
    (Element.mk name [] false).isSealed = true := by
  refine Element.isSealed_of_plain (fun c member => ?_)
    fun item member => by cases member
  obtain ⟨-, noQuote, -, open_⟩ := plain_of_isTagName named c member
  exact ⟨noQuote, open_⟩

theorem tokens_endTag_of_isTagName (later : List Char) :
    tokens ('<' :: '/' :: (name.toList ++ '>' :: later)) =
      .endTag name :: tokens later := by
  have plain := plain_of_isTagName named
  have read := tokens_endTag (plain_element_of_isTagName named).tag_ne_nil
    (fun c member => (plain c member).1)
    (fun member => (plain '>' member).2.2.2 rfl) later
  rwa [String.ofList_toList] at read

/-- The start tag of a name is followed by its content. -/
theorem tokens_startTag_of_isTagName (raw : isRawText name = true)
    (later : List Char) :
    tokens ('<' :: (name.toList ++ '>' :: later)) =
      .startTag name [] false :: rawTokens name later := by
  have read := (plain_element_of_isTagName named).tokens_start
    (isSealed_of_isTagName named) later
  have inside : (Element.mk name [] false).inside = name.toList := by
    simp [Element.inside, Element.renderHead]
  rw [inside] at read
  simpa [raw] using read

end Name

/-! ## Reading -/

theorem tokens_eq_textTokens {content : String}
    (absent : '<' ∉ content.toList) :
    tokens content.toList = textTokens content := by
  rw [textTokens]
  split
  · rename_i empty
    rw [List.isEmpty_iff.mp empty, tokens_nil]
  · rename_i some
    have nonempty : content.toList ≠ [] := fun none_ =>
      some (List.isEmpty_iff.mpr none_)
    rw [tokens_of_notMem nonempty absent, String.ofList_toList]

namespace Piece

theorem endsText_source {piece : Piece} (noText : piece.isText = false)
    (later : List Char) : EndsText (piece.source ++ later) := by
  intro c member
  cases piece with
  | text content =>
      cases noText
  | declaration content =>
      exact (Option.some.inj member).symm
  | comment content =>
      exact (Option.some.inj member).symm
  | startTag inside =>
      exact (Option.some.inj member).symm
  | endTag name =>
      exact (Option.some.inj member).symm
  | rawElement name content =>
      exact (Option.some.inj member).symm

/-- A whole piece is read on its own. -/
theorem tokens_source_append {piece : Piece}
    (whole : piece.isWhole = true) {later : List Char}
    (ends : piece.isText = true → EndsText later) :
    tokens (piece.source ++ later) = piece.read ++ tokens later := by
  cases piece with
  | text content =>
      have absent : '<' ∉ content.toList := all_bne_iff.mp whole
      rw [source_text, tokens_append (isHarmless_of_notMem absent) (ends rfl),
        tokens_eq_textTokens absent, read_text]
  | declaration content =>
      rw [isWhole, Bool.and_eq_true, Bool.not_eq_true'] at whole
      rw [source, tokens_declaration (all_bne_iff.mp whole.1) whole.2,
        String.ofList_toList]
      rfl
  | comment content =>
      rw [isWhole, Bool.not_eq_true'] at whole
      rw [source, tokens_comment whole, String.ofList_toList]
      rfl
  | startTag inside =>
      rcases reads : Markup.startTag inside.toList with
        ⟨name, attributes, selfClosing⟩
      rw [isWhole, reads, Bool.and_eq_true, Bool.and_eq_true, beq_iff_eq,
        Bool.not_eq_true'] at whole
      obtain ⟨⟨letter, closed⟩, noContent⟩ := whole
      have start := tokens_startTag letter closed reads later
      rw [noContent, if_neg Bool.false_ne_true] at start
      rw [source, List.cons_append, List.append_assoc, List.singleton_append,
        start, Piece.read, reads]
      rfl
  | endTag name =>
      rw [source, List.cons_append, List.cons_append, List.append_assoc]
      exact tokens_endTag_of_isTagName whole later
  | rawElement name content =>
      simp only [isWhole, Bool.and_eq_true, Bool.not_eq_true'] at whole
      obtain ⟨⟨named, raw⟩, absent⟩ := whole
      have solid : '<' ∉ name.toList := fun member =>
        (plain_of_isTagName named '<' member).2.2.1 rfl
      have content_ : rawTokens name (content.toList ++
            '<' :: '/' :: (name.toList ++ '>' :: later)) =
          textTokens content ++ .endTag name :: tokens later := by
        simp only [rawTokens, breakBefore_rawText absent solid,
          tokens_endTag_of_isTagName named, String.ofList_toList]
        rfl
      have written : (rawElement name content).source ++ later =
          '<' :: (name.toList ++ '>' :: (content.toList ++
            '<' :: '/' :: (name.toList ++ '>' :: later))) := by
        simp [source]
      rw [written, tokens_startTag_of_isTagName named raw, content_,
        Piece.read, List.cons_append, List.append_assoc]
      rfl

/-- The tokens of whole pieces are those of each in turn. -/
theorem tokens_flatMap_source {pieces : List Piece}
    (whole : ∀ piece ∈ pieces, piece.isWhole = true)
    (apart : pieces.IsChain fun first second =>
      (first.isText && second.isText) = false) :
    tokens (pieces.flatMap source) = pieces.flatMap read := by
  induction pieces with
  | nil =>
      exact tokens_nil
  | cons piece rest inductionHypothesis =>
      obtain ⟨first, others⟩ := List.forall_mem_cons.mp whole
      rw [List.flatMap_cons, List.flatMap_cons,
        tokens_source_append first, inductionHypothesis others apart.of_cons]
      intro isText
      cases rest with
      | nil =>
          exact endsText_nil
      | cons second more =>
          have noText := (List.isChain_cons_cons.mp apart).1
          rw [isText, Bool.true_and] at noText
          exact endsText_source noText _

end Piece

/-! ## The text of an element -/

def Token.opens (name : String) : Token → Bool
  | .startTag other _ _ => other == name
  | _ => false

/-- The text from the first start tag of a name up to the next end tag of that
name, with its references resolved. -/
def elementText (name : String) (read : List Token) : String :=
  let behind := (read.dropWhile (!·.opens name)).drop 1
  let runs := (behind.takeWhile (· != .endTag name)).filterMap Token.run?
  String.ofList (decodeEntities (runs.flatMap String.toList))

theorem elementText_eq {name : String} {before : List Token}
    (first : ∀ token ∈ before, token.opens name = false)
    (attributes : List Attribute) (content : String) (after : List Token) :
    elementText name (before ++ .startTag name attributes false ::
        (textTokens content ++ .endTag name :: after)) =
      String.ofList (decodeEntities content.toList) := by
  have passed : ∀ token ∈ before, (!token.opens name) = true := by
    intro token member
    rw [first token member]
    rfl
  have here : (Token.startTag name attributes false).opens name = true :=
    beq_self_eq_true name
  rw [elementText, List.dropWhile_append_of_pos passed]
  simp only [List.dropWhile_cons, here, Bool.not_true, Bool.false_eq_true,
    if_false, List.drop_succ_cons, List.drop_zero, textTokens]
  split
  · rename_i empty
    simp [List.isEmpty_iff.mp empty]
  · simp [Token.run?]

/-- Whether a piece begins an element of a name. -/
def Piece.opens (name : String) : Piece → Bool
  | startTag inside => (Markup.startTag inside.toList).1 == name
  | rawElement other _ => other == name
  | _ => false

theorem Piece.opens_of_mem_read {name : String} {piece : Piece}
    (other : piece.opens name = false) {token : Token}
    (member : token ∈ piece.read) : token.opens name = false := by
  have texts {content : String} (member : token ∈ textTokens content) :
      token.opens name = false := by
    rw [textTokens] at member
    split at member
    · cases member
    · rw [List.mem_singleton.mp member]
      rfl
  cases piece with
  | text content =>
      exact texts member
  | declaration content =>
      rw [List.mem_singleton.mp member]
      rfl
  | comment content =>
      rw [List.mem_singleton.mp member]
      rfl
  | startTag inside =>
      rw [List.mem_singleton.mp member]
      exact other
  | endTag name =>
      rw [List.mem_singleton.mp member]
      rfl
  | rawElement tag content =>
      rcases List.mem_cons.mp member with rfl | member
      · exact other
      rcases List.mem_append.mp member with member | member
      · exact texts member
      · rw [List.mem_singleton.mp member]
        rfl

end KeymapViewer.Markup
