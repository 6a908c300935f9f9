import KeymapViewer.Proofs.Markup.Legible

/-!
Token lists with their texts joined. This is what two readings have in common
that differ in how they break up texts, and joining the tokens of a forest is
settling the forest.
-/

namespace KeymapViewer.Markup

open Text

def Token.isText : Token → Bool
  | .text _ => true
  | _ => false

/-- Puts a token before others, and joins two texts. -/
def joinToken : Token → List Token → List Token
  | .text first, .text second :: rest => .text (first ++ second) :: rest
  | token, rest => token :: rest

def joinTexts (read : List Token) : List Token :=
  read.foldr joinToken []

/-- The text that a token list begins with. -/
def leadingText : List Token → List Char
  | .text run :: rest => run.toList ++ leadingText rest
  | _ => []

/-- Whether a token list begins with something that is no text. -/
def NoLeadingText (read : List Token) : Prop :=
  read.head?.any Token.isText = false

/-! ## Joining -/

theorem joinTexts_cons (token : Token) (rest : List Token) :
    joinTexts (token :: rest) = joinToken token (joinTexts rest) :=
  rfl

theorem joinToken_of_not_isText {token : Token}
    (noText : token.isText = false) (rest : List Token) :
    joinToken token rest = token :: rest := by
  cases token with
  | text run =>
      cases noText
  | startTag name attributes selfClosing =>
      rfl
  | endTag name =>
      rfl
  | comment run =>
      rfl
  | declaration run =>
      rfl

theorem joinToken_text {rest : List Token} (apart : NoLeadingText rest)
    (run : String) : joinToken (.text run) rest = .text run :: rest := by
  match rest with
  | [] =>
      rfl
  | .text second :: others =>
      cases apart
  | .startTag _ _ _ :: _ | .endTag _ :: _ | .comment _ :: _
  | .declaration _ :: _ =>
      rfl

/-- Two texts are joined, and anything else is left as it is. -/
theorem joinToken_cases (token : Token) (rest : List Token) :
    joinToken token rest = token :: rest ∧
        (token.isText = true → NoLeadingText rest) ∨
      ∃ first second others, token = .text first ∧
        rest = .text second :: others ∧
        joinToken token rest = .text (first ++ second) :: others := by
  cases noText : token.isText with
  | false =>
      refine .inl ⟨joinToken_of_not_isText noText rest, fun isText => ?_⟩
      cases isText
  | true =>
      match token, rest with
      | .text first, [] =>
          exact .inl ⟨rfl, fun _ => rfl⟩
      | .text first, .text second :: others =>
          exact .inr ⟨first, second, others, rfl, rfl, rfl⟩
      | .text first, .startTag _ _ _ :: _ | .text first, .endTag _ :: _
      | .text first, .comment _ :: _ | .text first, .declaration _ :: _ =>
          exact .inl ⟨rfl, fun _ => rfl⟩

theorem noLeadingText_joinTexts_iff (read : List Token) :
    NoLeadingText (joinTexts read) ↔ NoLeadingText read := by
  cases read with
  | nil =>
      exact Iff.rfl
  | cons token rest =>
      rw [joinTexts_cons]
      rcases joinToken_cases token (joinTexts rest) with
        ⟨same, -⟩ | ⟨first, second, others, rfl, -, joined⟩
      · rw [same]
        exact Iff.rfl
      · rw [joined]
        exact Iff.rfl

/-- No two texts are next to each other after joining. -/
theorem noLeadingText_of_joinTexts {read rest : List Token} {run : String}
    (joined : joinTexts read = .text run :: rest) : NoLeadingText rest := by
  induction read generalizing run rest with
  | nil =>
      cases joined
  | cons token others inductionHypothesis =>
      rw [joinTexts_cons] at joined
      rcases joinToken_cases token (joinTexts others) with
        ⟨same, apart⟩ | ⟨first, second, further, rfl, known, same⟩
      · rw [same] at joined
        cases joined
        exact apart rfl
      · rw [same] at joined
        cases joined
        exact inductionHypothesis known

theorem leadingText_joinTexts (read : List Token) :
    leadingText (joinTexts read) = leadingText read := by
  induction read with
  | nil =>
      rfl
  | cons token rest inductionHypothesis =>
      rw [joinTexts_cons]
      rcases joinToken_cases token (joinTexts rest) with
        ⟨same, -⟩ | ⟨first, second, others, rfl, known, joined⟩
      · rw [same]
        cases token with
        | text run =>
            rw [leadingText, leadingText, inductionHypothesis]
        | startTag name attributes selfClosing =>
            rfl
        | endTag name =>
            rfl
        | comment run =>
            rfl
        | declaration run =>
            rfl
      · rw [joined, leadingText, leadingText, ← inductionHypothesis, known,
          leadingText, String.toList_append, List.append_assoc]

theorem leadingText_of_noLeadingText {read : List Token}
    (apart : NoLeadingText read) : leadingText read = [] := by
  match read with
  | [] =>
      rfl
  | .text _ :: _ =>
      cases apart
  | .startTag _ _ _ :: _ | .endTag _ :: _ | .comment _ :: _
  | .declaration _ :: _ =>
      rfl

/-- The first text after joining is all the text that came first. -/
theorem toList_of_joinTexts {read rest : List Token} {run : String}
    (joined : joinTexts read = .text run :: rest) :
    run.toList = leadingText read := by
  have apart := leadingText_of_noLeadingText
    (noLeadingText_of_joinTexts joined)
  rw [← leadingText_joinTexts, joined, leadingText, apart, List.append_nil]

/-- Runs of text before something that is no text become one text. -/
theorem joinTexts_runs {runs : List String} (nonempty : runs ≠ [])
    {later : List Token} (apart : NoLeadingText later) :
    joinTexts (runs.map .text ++ later) =
      .text (String.ofList (runs.flatMap String.toList)) ::
        joinTexts later := by
  induction runs with
  | nil =>
      exact absurd rfl nonempty
  | cons run others inductionHypothesis =>
      rw [List.map_cons, List.cons_append, joinTexts_cons,
        List.flatMap_cons, String.ofList_append, String.ofList_toList]
      cases others with
      | nil =>
          rw [List.map_nil, List.nil_append,
            joinToken_text ((noLeadingText_joinTexts_iff later).mpr apart)]
          simp
      | cons next rest =>
          rw [inductionHypothesis (List.cons_ne_nil next rest)]
          rfl

/-! ## Forests -/

theorem noLeadingText_written {tree : Tree} (tidy : tree.Tidy)
    (noText : tree.isText = false) (later : List Token) :
    NoLeadingText (tree.written ++ later) := by
  cases tree with
  | node content children =>
      cases content with
      | document =>
          exact tidy.elim
      | element element =>
          rfl
      | text text =>
          cases noText
      | comment text =>
          rfl
      | declaration text =>
          rfl

theorem noLeadingText_writtenAll {forest : List Tree} (tidy : TidyAll forest)
    (noText : forest.head?.any Tree.isText = false) {later : List Token}
    (apart : NoLeadingText later) :
    NoLeadingText (writtenAll forest ++ later) := by
  cases forest with
  | nil =>
      exact apart
  | cons tree rest =>
      rw [writtenAll, List.append_assoc]
      exact noLeadingText_written tidy.1 noText _

mutual

theorem joinTexts_written (tree : Tree) (tidy : tree.Tidy)
    {forest : List Tree} (tidyForest : TidyAll forest)
    {read later : List Token} (apart : NoLeadingText later)
    (joined : joinTexts read = writtenAll forest ++ later) :
    joinTexts (tree.written ++ read) =
      writtenAll (joinText tree.settle forest) ++ later := by
  cases tree with
  | node content children =>
      cases content with
      | document =>
          exact tidy.elim
      | element element =>
          change joinTexts _ = writtenAll (.node (.element element)
            (settleAll children) :: forest) ++ later
          rw [Tree.written, List.cons_append, joinTexts_cons,
            joinToken_of_not_isText rfl, writtenAll, Tree.written]
          by_cases alone : element.isAlone = true
          · rw [if_pos alone, if_pos alone, List.nil_append, joined]
            rfl
          · have apartEnd : NoLeadingText (.endTag element.tag :: read) := rfl
            rw [if_neg alone, if_neg alone, List.append_assoc,
              List.singleton_append,
              joinTexts_writtenAll children tidy.2.2 apartEnd,
              joinTexts_cons, joinToken_of_not_isText rfl, joined]
            simp
      | text text =>
          obtain ⟨-, rfl⟩ := tidy
          change joinToken (.text text) (joinTexts read) =
            writtenAll (joinText (.leaf (.text text)) forest) ++ later
          rw [joined]
          cases adjacent : forest.head?.any Tree.isText with
          | false =>
              rw [joinText_of_settled fun _ => adjacent]
              exact joinToken_text
                (noLeadingText_writtenAll tidyForest adjacent apart) text
          | true =>
              cases forest with
              | nil =>
                  cases adjacent
              | cons next others =>
                  obtain ⟨second, -, rfl⟩ := tidyForest.1.eq_text adjacent
                  rfl
      | comment text =>
          rw [Tree.written, List.singleton_append, joinTexts_cons, joined]
          rfl
      | declaration text =>
          rw [Tree.written, List.singleton_append, joinTexts_cons, joined]
          rfl

/-- Joining the tokens of a forest settles the forest. -/
theorem joinTexts_writtenAll (forest : List Tree) (tidy : TidyAll forest)
    {later : List Token} (apart : NoLeadingText later) :
    joinTexts (writtenAll forest ++ later) =
      writtenAll (settleAll forest) ++ joinTexts later := by
  cases forest with
  | nil =>
      rfl
  | cons tree rest =>
      rw [writtenAll, List.append_assoc, settleAll]
      exact joinTexts_written tree tidy.1 (tidyAll_settleAll rest tidy.2)
        ((noLeadingText_joinTexts_iff later).mpr apart)
        (joinTexts_writtenAll rest tidy.2 apart)

end

end KeymapViewer.Markup
