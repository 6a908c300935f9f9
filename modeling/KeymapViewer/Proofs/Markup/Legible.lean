import KeymapViewer.Proofs.Markup.Settled

/-!
Forests whose markup is read back as it was written: no text starts anything,
the quotes in every start tag are closed where it ends, every end tag is read
to its end, and raw text elements hold text without their own end tag.
-/

namespace KeymapViewer.Markup

open Text

/-- What a raw text element can hold: nothing, or a text in which its end tag
does not begin. -/
def isRawContent (name : String) : List Tree → Bool
  | [] => true
  | [.node (.text text) _] => !occurs (beginsEndTag name) text.toList
  | _ => false

mutual

/-- Whether the markup of a settled tree is read as it was written. -/
def Tree.isLegible : Tree → Bool
  | .node (.element element) children =>
    element.isSealed &&
      (element.isAlone ||
        (!element.tag.toList.contains '>' &&
          if isRawText element.tag then isRawContent element.tag children
          else areLegible children))
  | .node (.text text) _ => isHarmless text.toList
  | _ => true

def areLegible : List Tree → Bool
  | [] => true
  | tree :: rest => tree.isLegible && areLegible rest

end

/-! ## How trees are written -/

theorem not_isRawText_of_isVoid {name : String} (void : isVoid name = true) :
    isRawText name = false := by
  have apart : ∀ first ∈ voidElements, ∀ second ∈ rawTextElements,
      first.toList.map Char.toLower ≠ second.toList.map Char.toLower := by
    decide
  by_contra raw
  rw [Bool.not_eq_false] at raw
  obtain ⟨second, listedSecond, sameSecond⟩ := (isRawText_iff name).mp raw
  simp only [isVoid, List.any_eq_true, sameName, sameIgnoringCase,
    beq_iff_eq] at void
  obtain ⟨first, listedFirst, sameFirst⟩ := void
  exact apart first listedFirst second listedSecond
    (sameFirst.symm.trans sameSecond)

theorem raw_eq_false_of_isAlone {element : Element}
    (alone : element.isAlone = true) :
    (!element.selfClosing && isRawText element.tag) = false := by
  cases closing : element.selfClosing with
  | true =>
      rfl
  | false =>
      rw [Element.isAlone, closing, Bool.false_or] at alone
      rw [not_isRawText_of_isVoid alone]
      rfl

def Element.rest (element : Element) (children : List Tree) : List Char :=
  if element.isAlone then [] else renderAll children ++ element.close []

theorem Element.close_append (element : Element) (later : List Char) :
    element.close [] ++ later = element.close later := by
  simp [Element.close]

theorem render_element {element : Element} {children : List Tree}
    (childless : element.isAlone = true → children = []) :
    (Tree.node (.element element) children).render =
      '<' :: (element.inside ++ '>' :: element.rest children) := by
  rw [Tree.render, Element.render, Element.inside, Element.rest]
  by_cases closing : element.selfClosing = true
  · have alone : element.isAlone = true := by
      rw [Element.isAlone, closing, Bool.true_or]
    rw [childless alone, closing, alone]
    simp
  · rw [Bool.not_eq_true] at closing
    have same : element.isAlone = isVoid element.tag := by
      rw [Element.isAlone, closing, Bool.false_or]
    rw [closing, same]
    by_cases void : isVoid element.tag = true
    · simp [void]
    · simp [void, Element.close]

/-- Every tidy tree but a text begins with a bracket. -/
theorem render_eq_open {tree : Tree} (tidy : tree.Tidy)
    (noText : tree.isText = false) : ∃ tail, tree.render = '<' :: tail := by
  cases tree with
  | node content children =>
      cases content with
      | document =>
          exact tidy.elim
      | element element =>
          exact ⟨_, render_element tidy.2.1⟩
      | text text =>
          cases noText
      | comment text =>
          exact ⟨_, rfl⟩
      | declaration text =>
          exact ⟨_, rfl⟩

theorem endsText_open (tail : List Char) : EndsText ('<' :: tail) := by
  intro c member
  simpa using member.symm

theorem Element.endsText_close (element : Element) (later : List Char) :
    EndsText (element.close later) :=
  endsText_open _

/-- What comes after a text in a settled forest is no text. -/
theorem endsText_renderAll {forest : List Tree} (tidy : TidyAll forest)
    (apart : forest.head?.any Tree.isText = false) {later : List Char}
    (ends : EndsText later) : EndsText (renderAll forest ++ later) := by
  cases forest with
  | nil =>
      exact ends
  | cons tree rest =>
      obtain ⟨tail, written⟩ := render_eq_open tidy.1 apart
      rw [renderAll, written]
      exact endsText_open _

/-! ## How legible forests are read -/

theorem tokens_endTag_of_plain {element : Element} (plain : element.Plain)
    (closed : element.tag.toList.contains '>' = false) (later : List Char) :
    tokens (element.close later) = .endTag element.tag :: tokens later := by
  have absent : '>' ∉ element.tag.toList := by
    simpa using closed
  rw [Element.close, tokens_endTag plain.tag_ne_nil plain.solid absent,
    String.ofList_toList]

theorem writtenAll_runs (runs : List String) :
    writtenAll (runs.map fun run => .leaf (.text run)) =
      runs.map .text := by
  induction runs with
  | nil =>
      rfl
  | cons run rest inductionHypothesis =>
      rw [List.map_cons, writtenAll, inductionHypothesis]
      rfl

/-- The content of a raw text element is one token. -/
theorem tokens_rawContent {element : Element} (plain : element.Plain)
    (raw : isRawText element.tag = true)
    (closed : element.tag.toList.contains '>' = false)
    {children : List Tree} (tidy : TidyAll children)
    (content : isRawContent element.tag children = true)
    (later : List Char) :
    rawTokens element.tag (renderAll children ++ element.close later) =
      writtenAll children ++ .endTag element.tag :: tokens later := by
  have noOpen : '<' ∉ element.tag.toList :=
    not_mem_of_isRawText raw (by decide)
  match children with
  | [] =>
      have nothing : occurs (beginsEndTag element.tag) [] = false := rfl
      have cut := breakBefore_rawText nothing noOpen ('>' :: later)
      change breakBefore _ (element.close later) = _ at cut
      rw [renderAll, List.nil_append, rawTokens, cut]
      exact tokens_endTag_of_plain plain closed later
  | [.node (.text text) below] =>
      have absent : occurs (beginsEndTag element.tag) text.toList = false := by
        simpa [isRawContent] using content
      have cut := breakBefore_rawText absent noOpen ('>' :: later)
      have nonempty : text.toList.isEmpty = false := by
        cases written : text.toList with
        | nil =>
            exact absurd (String.toList_eq_nil_iff.mp written) tidy.1.1
        | cons c rest =>
            rfl
      change breakBefore _ (text.toList ++ element.close later) =
        (text.toList, element.close later) at cut
      rw [renderAll, renderAll, Tree.render, List.append_nil, rawTokens, cut]
      simp only [nonempty, Bool.false_eq_true, ↓reduceIte,
        String.ofList_toList, tokens_endTag_of_plain plain closed]
      rfl
  | .node (.text _) _ :: _ :: _ | .node (.element _) _ :: _
  | .node (.comment _) _ :: _ | .node (.declaration _) _ :: _
  | .node .document _ :: _ =>
      cases content

mutual

/-- A legible tree is read as what it was written as, with its texts broken
into runs. -/
theorem tokens_render (tree : Tree) (tidy : tree.Tidy)
    (settled : tree.Settled) (legible : tree.isLegible = true)
    {later : List Char} (ends : tree.isText = true → EndsText later) :
    tokens (tree.render ++ later) =
      writtenAll tree.breakTexts ++ tokens later := by
  cases tree with
  | node content children =>
      cases content with
      | document =>
          exact tidy.elim
      | element element =>
          obtain ⟨plain, childless, below⟩ := tidy
          rw [Tree.isLegible, Bool.and_eq_true] at legible
          have start := plain.tokens_start legible.1
            (element.rest children ++ later)
          rw [render_element childless, List.cons_append, List.append_assoc,
            List.cons_append, start, Tree.breakTexts, writtenAll, writtenAll,
            List.append_nil, Tree.written, List.cons_append]
          congr 1
          -- The start tag is read. What is left is nothing, raw text, or a
          -- forest before an end tag.
          by_cases alone : element.isAlone = true
          · rw [raw_eq_false_of_isAlone alone, if_neg Bool.false_ne_true,
              Element.rest, if_pos alone, if_pos alone]
            rfl
          · have several := legible.2
            rw [Bool.not_eq_true] at alone
            rw [alone, Bool.false_or, Bool.and_eq_true,
              Bool.not_eq_true'] at several
            obtain ⟨closed, inner⟩ := several
            have notClosing : element.selfClosing = false := by
              rw [Element.isAlone, Bool.or_eq_false_iff] at alone
              exact alone.1
            rw [notClosing, Element.rest, alone, if_neg Bool.false_ne_true,
              if_neg Bool.false_ne_true, Bool.not_false, Bool.true_and,
              List.append_assoc, Element.close_append]
            by_cases raw : isRawText element.tag = true
            · rw [if_pos raw] at inner ⊢
              rw [if_pos raw, tokens_rawContent plain raw closed below inner,
                List.append_assoc]
              rfl
            · rw [if_neg raw] at inner ⊢
              have content := tokens_renderAll children below settled inner
                (element.endsText_close later)
              rw [if_neg raw, content, tokens_endTag_of_plain plain closed,
                List.append_assoc]
              rfl
      | text text =>
          obtain ⟨read, -, -⟩ := textRuns_spec legible
          rw [Tree.render, tokens_append legible (ends rfl), Tree.breakTexts,
            writtenAll_runs]
          exact congrArg (· ++ tokens later) read
      | comment text =>
          rw [Tree.render, tokens_comment tidy.1, String.ofList_toList]
          rfl
      | declaration text =>
          rw [Tree.render, tokens_declaration tidy.1 tidy.2.1,
            String.ofList_toList]
          rfl

theorem tokens_renderAll (forest : List Tree) (tidy : TidyAll forest)
    (settled : SettledAll forest) (legible : areLegible forest = true)
    {later : List Char} (ends : EndsText later) :
    tokens (renderAll forest ++ later) =
      writtenAll (breakAll forest) ++ tokens later := by
  cases forest with
  | nil =>
      rfl
  | cons tree rest =>
      rw [areLegible, Bool.and_eq_true] at legible
      have first := tokens_render tree tidy.1 settled.1 legible.1
        fun isText => endsText_renderAll tidy.2 (settled.2.1 isText) ends
      rw [renderAll, List.append_assoc, first,
        tokens_renderAll rest tidy.2 settled.2.2 legible.2 ends, breakAll,
        writtenAll_append, List.append_assoc]

end

/-! ## Forests with broken texts -/

theorem ne_empty_of_mem_textRuns {text run : String}
    (member : run ∈ textRuns text) : run ≠ "" := by
  obtain ⟨token, read, isRun⟩ := List.mem_filterMap.mp member
  have tidy := tidy_of_tokens text.toList token read
  cases token with
  | text other =>
      cases isRun
      exact tidy
  | startTag name attributes selfClosing =>
      cases isRun
  | endTag name =>
      cases isRun
  | comment other =>
      cases isRun
  | declaration other =>
      cases isRun

theorem tidyAll_append {first second : List Tree} (tidy : TidyAll first)
    (tidySecond : TidyAll second) : TidyAll (first ++ second) := by
  rw [tidyAll_iff] at tidy tidySecond ⊢
  intro tree member
  rcases List.mem_append.mp member with before | after
  · exact tidy tree before
  · exact tidySecond tree after

mutual

theorem tidyAll_breakTexts (tree : Tree) (tidy : tree.Tidy) :
    TidyAll tree.breakTexts := by
  cases tree with
  | node content children =>
      cases content with
      | document =>
          exact tidy.elim
      | element element =>
          obtain ⟨plain, childless, below⟩ := tidy
          rw [Tree.breakTexts]
          by_cases raw : isRawText element.tag = true
          · rw [if_pos raw]
            exact ⟨⟨plain, childless, below⟩, trivial⟩
          · rw [if_neg raw]
            refine ⟨⟨plain, fun alone => ?_,
              tidyAll_breakAll children below⟩, trivial⟩
            rw [childless alone]
            rfl
      | text text =>
          rw [Tree.breakTexts, tidyAll_iff]
          intro leaf member
          obtain ⟨run, listed, rfl⟩ := List.mem_map.mp member
          exact ⟨ne_empty_of_mem_textRuns listed, rfl⟩
      | comment text =>
          exact ⟨tidy, trivial⟩
      | declaration text =>
          exact ⟨tidy, trivial⟩

theorem tidyAll_breakAll (forest : List Tree) (tidy : TidyAll forest) :
    TidyAll (breakAll forest) := by
  cases forest with
  | nil =>
      trivial
  | cons tree rest =>
      exact tidyAll_append (tidyAll_breakTexts tree tidy.1)
        (tidyAll_breakAll rest tidy.2)

end

mutual

theorem settleAll_breakTexts (tree : Tree) (tidy : tree.Tidy)
    (settled : tree.Settled) (legible : tree.isLegible = true)
    {later : List Tree}
    (apart : tree.isText = true →
      (settleAll later).head?.any Tree.isText = false) :
    settleAll (tree.breakTexts ++ later) = tree :: settleAll later := by
  cases tree with
  | node content children =>
      cases content with
      | document =>
          exact tidy.elim
      | element element =>
          obtain ⟨plain, childless, below⟩ := tidy
          have inner :
              settleAll (if isRawText element.tag then children
                else breakAll children) = children := by
            by_cases raw : isRawText element.tag = true
            · rw [if_pos raw]
              exact settleAll_of_settled children settled
            · rw [if_neg raw]
              by_cases alone : element.isAlone = true
              · rw [childless alone]
                rfl
              · simp only [Tree.isLegible, alone, raw, Bool.and_eq_true,
                  Bool.false_or, Bool.false_eq_true, ↓reduceIte] at legible
                exact settleAll_breakAll children below settled legible.2.2
          change .node (.element element) (settleAll _) ::
            settleAll later = _
          rw [inner]
      | text text =>
          obtain ⟨-, whole, -⟩ := textRuns_spec legible
          have runs := textRuns_ne_nil tidy.1 legible
          rw [Tree.breakTexts, settleAll_runs runs (apart rfl), whole,
            String.ofList_toList, tidy.2, Tree.leaf]
      | comment text =>
          rw [tidy.2]
          rfl
      | declaration text =>
          rw [tidy.2.2]
          rfl

/-- Breaking the texts of a legible forest is undone by settling. -/
theorem settleAll_breakAll (forest : List Tree) (tidy : TidyAll forest)
    (settled : SettledAll forest) (legible : areLegible forest = true) :
    settleAll (breakAll forest) = forest := by
  cases forest with
  | nil =>
      rfl
  | cons tree rest =>
      rw [areLegible, Bool.and_eq_true] at legible
      have others :=
        settleAll_breakAll rest tidy.2 settled.2.2 legible.2
      rw [breakAll, settleAll_breakTexts tree tidy.1 settled.1 legible.1,
        others]
      rw [others]
      exact settled.2.1

end

/-- A legible forest is read as itself with its texts broken into runs. -/
theorem parse_renderAll {forest : Forest} (tidy : TidyAll forest)
    (settled : SettledAll forest) (legible : areLegible forest = true) :
    Forest.parse (String.ofList (renderAll forest)) = breakAll forest := by
  have read := tokens_renderAll forest tidy settled legible endsText_nil
  rw [List.append_nil, tokens_nil, List.append_nil] at read
  unfold Forest.parse tokenize
  rw [String.toList_ofList, read,
    ofTokens_writtenAll (tidyAll_breakAll forest tidy)]

end KeymapViewer.Markup
