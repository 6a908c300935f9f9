import KeymapViewer.Proofs.Markup.Joined
import KeymapViewer.Proofs.Markup.Sealed

/-!
Markup that is read as it was written comes from a legible forest. From left to
right, each tree is legible when it is read as itself, and then what follows it
is read on its own.
-/

namespace KeymapViewer.Markup

open Text

/-! ## Texts -/

/-- Whether a text ends here whatever it is, and another piece begins. -/
structure Apart (later : List Char) : Prop where
  ends : EndsText later
  read : NoLeadingText (tokens later)

theorem isHarmless_cons_of_ne {c : Char} (text : c ≠ '<')
    (rest : List Char) : isHarmless (c :: rest) = isHarmless rest := by
  rw [isHarmless, beq_eq_false_iff_ne.mpr text, Bool.false_and,
    Bool.not_false, Bool.true_and]

theorem isHarmless_of_dropWhile {text : List Char}
    (harmless : isHarmless (text.dropWhile (· != '<')) = true) :
    isHarmless text = true := by
  induction text with
  | nil =>
      rfl
  | cons c rest inductionHypothesis =>
      by_cases opens : c = '<'
      · rw [opens] at harmless ⊢
        exact harmless
      · have keeps : (c != '<') = true := bne_iff_ne.mpr opens
        rw [isHarmless_cons_of_ne opens]
        rw [List.dropWhile_cons, if_pos keeps] at harmless
        exact inductionHypothesis harmless

theorem isBlank_of_trimEnd_eq_nil {text : List Char}
    (empty : trimEnd text = []) : ∀ c ∈ text, isBlank c = true := by
  intro c member
  exact List.dropWhile_eq_nil_iff.mp (List.reverse_eq_nil_iff.mp empty) c
    (List.mem_reverse.mpr member)

theorem isBlank_of_trim_eq_nil {text : List Char}
    (empty : trim text = []) : ∀ c ∈ text, isBlank c = true := by
  have blank := isBlank_of_trimEnd_eq_nil empty
  cases start : trimStart text with
  | nil =>
      exact fun c => List.dropWhile_eq_nil_iff.mp start c
  | cons first rest =>
      have notBlank := List.head?_dropWhile_not isBlank text
      change (text.dropWhile isBlank) = _ at start
      rw [start] at notBlank
      have isFirst := blank first (by
        change first ∈ text.dropWhile isBlank
        rw [start]
        exact List.mem_cons_self ..)
      simp [isFirst] at notBlank

theorem scanStart_eq_cons (text : List Char) :
    ∃ more, (scanStart text).1 =
      .startTag (startTag (cutTag none text).1).1
        (startTag (cutTag none text).1).2.1
        (startTag (cutTag none text).1).2.2 :: more := by
  unfold scanStart
  simp only
  split
  · exact ⟨_, rfl⟩
  · exact ⟨[], rfl⟩

theorem scanTag_slash (rest : List Char) :
    scanTag ('/' :: rest) =
      (if (trim (cutAtClose rest).1).isEmpty then []
        else [.endTag (String.ofList (trim (cutAtClose rest).1))],
        (cutAtClose rest).2) :=
  rfl

/-- What opens markup is read as no text, unless it is an end tag without a
name, which is left out. -/
theorem leadingText_scanTag {c : Char} (opens : opensMarkup c = true)
    (rest : List Char) (later : List Token) :
    leadingText ((scanTag (c :: rest)).1 ++ later) = [] ∨
      c = '/' ∧ scanTag (c :: rest) = ([], (cutAtClose rest).2) ∧
        trim (cutAtClose rest).1 = [] := by
  simp only [opensMarkup, Bool.or_eq_true, beq_iff_eq] at opens
  rcases opens with (letter | rfl) | rfl
  · left
    obtain ⟨more, first⟩ := scanStart_eq_cons (c :: rest)
    rw [scanTag_of_isAlpha letter, first]
    rfl
  · left
    unfold scanTag
    split
    · rfl
    · rfl
    · rename_i same
      cases same
    · rename_i noMark _ same
      cases same
      exact (noMark rfl).elim
    · rename_i same
      cases same
  · rw [scanTag_slash]
    cases named : (trim (cutAtClose rest).1).isEmpty with
    | true =>
        exact .inr ⟨rfl, rfl, List.isEmpty_iff.mp named⟩
    | false =>
        exact .inl rfl

/-- An end tag without a name ends where the text does, or inside it. -/
theorem cutAtClose_append_of_blank {text later : List Char}
    (ends : EndsText later)
    (blank : ∀ c ∈ (cutAtClose (text ++ later)).1, isBlank c = true) :
    (cutAtClose (text ++ later)).2 = [] ∨
      ∃ before after, text = before ++ '>' :: after ∧
        (cutAtClose (text ++ later)).2 = after ++ later := by
  by_cases closes : '>' ∈ text
  · obtain ⟨before, after, rfl, absent⟩ := List.eq_append_cons_of_mem closes
    refine .inr ⟨before, after, rfl, ?_⟩
    rw [List.append_assoc, List.cons_append, cutAtClose_append absent]
  · cases later with
    | nil =>
        left
        have all : ∀ c ∈ text, (c != '>') = true :=
          forall_bne_iff.mpr closes
        rw [List.append_nil, cutAtClose, List.dropWhile_eq_nil_iff.mpr all]
        rfl
    | cons c rest =>
        have same : c = '<' := ends c rfl
        subst same
        have keeps : ∀ c ∈ text ++ ['<'], (c != '>') = true :=
          forall_bne_iff.mpr (by simp [closes])
        have inside : '<' ∈ (cutAtClose (text ++ '<' :: rest)).1 := by
          rw [cutAtClose, List.append_cons,
            List.takeWhile_append_of_pos keeps]
          simp
        exact absurd (blank '<' inside) (by decide)

/-- No more text comes first than was written, and what does not start
anything is all of it. -/
theorem leadingText_tokens_append {later : List Char} (apart : Apart later)
    (text : List Char) :
    (leadingText (tokens (text ++ later))).length ≤ text.length ∧
      ((leadingText (tokens (text ++ later))).length = text.length →
        isHarmless text = true) := by
  -- The induction is on the length: an end tag without a name takes more than
  -- its first character away.
  induction size : text.length using Nat.strong_induction_on
    generalizing text with
  | _ count inductionHypothesis =>
  cases text with
  | nil =>
      rw [List.nil_append, leadingText_of_noLeadingText apart.read]
      exact ⟨Nat.zero_le _, fun _ => rfl⟩
  | cons c rest =>
      rw [List.length_cons] at size
      by_cases opens : c = '<'
      · subst opens
        rw [List.cons_append, tokens_open]
        cases starts : rest.head?.any opensMarkup with
        | false =>
            have closed : (rest ++ later).head?.any opensMarkup = false := by
              cases rest with
              | nil =>
                  exact apart.ends.any_eq_false
              | cons d others =>
                  exact starts
            obtain ⟨bound, whole⟩ :=
              inductionHypothesis rest.length (by omega) rest rfl
            have one : "<".toList.length = 1 := rfl
            simp only [scanTag_of_text closed, List.singleton_append,
              leadingText, List.length_append, one]
            refine ⟨by omega, fun full => ?_⟩
            rw [isHarmless, starts, whole (by omega)]
            rfl
        | true =>
            -- What starts here is no text, so a part of this text is missing
            -- in front of the next token.
            have short : (leadingText ((scanTag (rest ++ later)).1 ++
                tokens (scanTag (rest ++ later)).2)).length < count := by
              cases rest with
              | nil =>
                  cases starts
              | cons d others =>
                  rw [List.cons_append]
                  rcases leadingText_scanTag starts (others ++ later)
                    (tokens (scanTag (d :: (others ++ later))).2) with
                    none_ | ⟨rfl, scanned, unnamed⟩
                  · rw [none_]
                    exact (size ▸ Nat.succ_pos _)
                  · rw [scanned, List.nil_append]
                    rcases cutAtClose_append_of_blank apart.ends
                        (isBlank_of_trim_eq_nil unnamed) with
                      none_ | ⟨before, after, rfl, cut⟩
                    · rw [none_, tokens_nil]
                      exact (size ▸ Nat.succ_pos _)
                    · rw [List.length_cons, List.length_append,
                        List.length_cons] at size
                      have bound := (inductionHypothesis after.length
                        (by omega) after rfl).1
                      rw [cut]
                      omega
            exact ⟨short.le, fun full => absurd full short.ne⟩
      · obtain ⟨taken, dropped⟩ := takeWhile_append_of_endsText apart.ends rest
        have whole := congrArg List.length
          (List.takeWhile_append_dropWhile (p := (· != '<')) (l := rest))
        rw [List.length_append] at whole
        obtain ⟨bound, harmless⟩ :=
          inductionHypothesis (rest.dropWhile (· != '<')).length (by omega)
            (rest.dropWhile (· != '<')) rfl
        rw [List.cons_append, tokens_run opens, taken, dropped, leadingText,
          String.toList_ofList, List.length_append, List.length_cons]
        refine ⟨by omega, fun full => ?_⟩
        rw [isHarmless_cons_of_ne opens]
        exact isHarmless_of_dropWhile (harmless (by omega))

/-- A text that is read as itself starts nothing. -/
theorem isHarmless_of_joinTexts {text : String} (nonempty : text ≠ "")
    {later : List Char} (apart : Apart later) {rest : List Token}
    (joined : joinTexts (tokens (text.toList ++ later)) =
      .text text :: rest) :
    isHarmless text.toList = true ∧ joinTexts (tokens later) = rest := by
  have leading := toList_of_joinTexts joined
  have harmless := (leadingText_tokens_append apart text.toList).2
    (by rw [← leading])
  refine ⟨harmless, ?_⟩
  obtain ⟨read, -, -⟩ := textRuns_spec harmless
  unfold tokenize at read
  rw [tokens_append harmless apart.ends, read,
    joinTexts_runs (textRuns_ne_nil nonempty harmless) apart.read] at joined
  injection joined

/-! ## End tags -/

theorem tokens_endTag_eq_cons {first : Char} (letter : first.isAlpha = true)
    (rest : List Char) :
    tokens ('<' :: '/' :: first :: rest) =
      .endTag (String.ofList (trim (cutAtClose (first :: rest)).1)) ::
        tokens (cutAtClose (first :: rest)).2 := by
  have solid := isGap_of_isAlpha letter
  rw [isGap, Bool.or_eq_false_iff] at solid
  have keeps : (first != '>') = true := by
    rw [bne_iff_ne]
    rintro rfl
    exact absurd letter (by decide)
  have inside : first ∈ (cutAtClose (first :: rest)).1 := by
    rw [cutAtClose, List.takeWhile_cons, if_pos keeps]
    exact List.mem_cons_self ..
  have named : (trim (cutAtClose (first :: rest)).1).isEmpty = false := by
    refine List.isEmpty_eq_false_iff.mpr fun empty => ?_
    rw [isBlank_of_trim_eq_nil empty first inside] at solid
    cases solid.1
  rw [tokens_open, scanTag_slash, named]
  rfl

theorem Element.Plain.apart_endTag {element : Element}
    (plain : element.Plain) (later : List Char) :
    Apart (element.close later) := by
  obtain ⟨first, rest, characters, letter⟩ := plain.letter
  refine ⟨element.endsText_close later, ?_⟩
  rw [Element.close, characters, List.cons_append, tokens_endTag_eq_cons letter]
  rfl

/-- An end tag that is read as what it was written for has no `>` in its
name. -/
theorem Element.Plain.endTag_of_joinTexts {element : Element}
    (plain : element.Plain) {later : List Char} {rest : List Token}
    (joined : joinTexts (tokens (element.close later)) =
      .endTag element.tag :: rest) :
    element.tag.toList.contains '>' = false ∧
      joinTexts (tokens later) = rest := by
  have closed : element.tag.toList.contains '>' = false := by
    obtain ⟨first, others, characters, letter⟩ := plain.letter
    by_contra closes
    rw [Bool.not_eq_false, List.contains_iff_mem] at closes
    rw [Element.close, characters, List.cons_append,
      tokens_endTag_eq_cons letter, joinTexts_cons,
      joinToken_of_not_isText rfl] at joined
    injection joined with same _
    injection same with same
    rw [← same, String.toList_ofList] at closes
    have before := List.mem_takeWhile_imp (mem_of_mem_trim closes)
    simp at before
  refine ⟨closed, ?_⟩
  rw [tokens_endTag_of_plain plain closed, joinTexts_cons,
    joinToken_of_not_isText rfl] at joined
  injection joined

/-! ## Raw text -/

theorem beginsEndTag_append {name : String} {text : List Char}
    (begins : beginsEndTag name text = true) (later : List Char) :
    beginsEndTag name (text ++ later) = true := by
  have same := congrArg List.length (beq_iff_eq.mp begins)
  rw [List.length_map, List.length_map, List.length_take] at same
  have long : ('<' :: '/' :: name.toList).length ≤ text.length := by
    omega
  exact (congrArg (sameIgnoringCase _)
    (List.take_append_of_le_length long)).trans begins

theorem tokens_of_beginsEndTag {element : Element}
    (plain : element.Plain) {text : List Char}
    (begins : beginsEndTag element.tag text = true) :
    ∃ name rest, tokens text = .endTag name :: rest := by
  obtain ⟨first, others, characters, letter⟩ := plain.letter
  unfold beginsEndTag at begins
  rw [characters] at begins
  have same := beq_iff_eq.mp begins
  match text with
  | [] | [_] | [_, _] =>
      simp at same
  | opening :: slash :: c :: rest =>
      simp only [List.length_cons, List.take_succ_cons, List.map_cons,
        List.cons.injEq] at same
      obtain ⟨isOpen, isSlash, isLetter, -⟩ := same
      have opens : opening = '<' :=
        eq_of_toLower (by decide) (isOpen.symm.trans (by decide))
      have slashes : slash = '/' :=
        eq_of_toLower (by decide) (isSlash.symm.trans (by decide))
      rw [opens, slashes,
        tokens_endTag_eq_cons (isAlpha_of_toLower isLetter.symm letter)]
      exact ⟨_, _, rfl⟩

/-- What is sought is found if there is a place where it is. -/
theorem found_of_breakBefore {found : List Char → Bool}
    (text : List Char) {later : List Char} (nonempty : later ≠ [])
    (there : found later = true) :
    found (breakBefore found (text ++ later)).2 = true := by
  induction text with
  | nil =>
      cases later with
      | nil =>
          exact absurd rfl nonempty
      | cons c rest =>
          rw [List.nil_append, breakBefore, if_pos there]
          exact there
  | cons c rest inductionHypothesis =>
      rw [List.cons_append, breakBefore]
      by_cases here : found (c :: (rest ++ later)) = true
      · rw [if_pos here]
        exact here
      · rw [if_neg here]
        exact inductionHypothesis

/-- No tree is written as an end tag alone. -/
theorem eq_nil_of_writtenAll {forest : List Tree} (tidy : TidyAll forest)
    {name : String} {first rest : List Token}
    (written : writtenAll forest ++ first = .endTag name :: rest) :
    forest = [] := by
  cases forest with
  | nil =>
      rfl
  | cons tree others =>
      rw [writtenAll, List.append_assoc] at written
      obtain ⟨⟨content, children⟩, others⟩ := tree, others
      cases content with
      | document =>
          exact tidy.1.elim
      | element element =>
          cases written
      | text text =>
          cases written
      | comment text =>
          cases written
      | declaration text =>
          cases written

/-- A raw text element that is read as it was written holds nothing or one
text. -/
theorem Element.Plain.isRawContent_of_joinTexts {element : Element}
    (plain : element.Plain) {children : List Tree} (tidy : TidyAll children)
    {later : List Char} {rest : List Token}
    (joined : joinTexts
        (rawTokens element.tag (renderAll children ++ element.close later)) =
      writtenAll children ++ .endTag element.tag :: rest) :
    isRawContent element.tag children = true := by
  have closes : beginsEndTag element.tag (element.close later) = true := by
    simp [beginsEndTag, sameIgnoringCase, Element.close]
  have some_ : element.close later ≠ [] := List.cons_ne_nil _ _
  have begins := found_of_breakBefore (renderAll children) some_ closes
  have grows : ∀ before after, beginsEndTag element.tag before = true →
      beginsEndTag element.tag (before ++ after) = true :=
    fun _ after known => beginsEndTag_append known after
  have absent :=
    occurs_breakBefore grows (renderAll children ++ element.close later)
  -- The content is cut at the latest where its end tag was written, so the
  -- tokens go on with an end tag.
  rw [rawTokens] at joined
  generalize breakBefore (beginsEndTag element.tag)
    (renderAll children ++ element.close later) = split
    at begins absent joined
  obtain ⟨content, after⟩ := split
  obtain ⟨name, others, read⟩ := tokens_of_beginsEndTag plain begins
  simp only at absent joined read
  rw [read] at joined
  by_cases empty : content.isEmpty = true
  · rw [if_pos empty, List.nil_append, joinTexts_cons,
      joinToken_of_not_isText rfl] at joined
    rw [eq_nil_of_writtenAll tidy joined.symm]
    rfl
  · have apart : NoLeadingText (joinTexts (.endTag name :: others)) :=
      (noLeadingText_joinTexts_iff _).mpr rfl
    rw [if_neg empty, List.singleton_append, joinTexts_cons,
      joinToken_text apart, joinTexts_cons,
      joinToken_of_not_isText rfl] at joined
    cases children with
    | nil =>
        cases joined
    | cons tree more =>
        rw [writtenAll, List.append_assoc] at joined
        obtain ⟨kind, below⟩ := tree
        cases kind with
        | document =>
            exact tidy.1.elim
        | element other =>
            cases joined
        | text text =>
            injection joined with same joined
            injection same with same
            rw [eq_nil_of_writtenAll tidy.2 joined.symm, isRawContent, ← same,
              String.toList_ofList, absent]
            rfl
        | comment text =>
            cases joined
        | declaration text =>
            cases joined

theorem Element.Plain.rawContent_of_joinTexts {element : Element}
    (plain : element.Plain) (raw : isRawText element.tag = true)
    {children : List Tree} (tidy : TidyAll children)
    (settled : SettledAll children) {later : List Char} {rest : List Token}
    (joined : joinTexts
        (rawTokens element.tag (renderAll children ++ element.close later)) =
      writtenAll children ++ .endTag element.tag :: rest) :
    isRawContent element.tag children = true ∧
      element.tag.toList.contains '>' = false ∧
      joinTexts (tokens later) = rest := by
  have closed : element.tag.toList.contains '>' = false := by
    rw [← Bool.not_eq_true, List.contains_iff_mem]
    exact not_mem_of_isRawText raw (by decide)
  have content := plain.isRawContent_of_joinTexts tidy joined
  refine ⟨content, closed, ?_⟩
  have apart : NoLeadingText (.endTag element.tag :: tokens later) := rfl
  rw [tokens_rawContent plain raw closed tidy content,
    joinTexts_writtenAll children tidy apart,
    settleAll_of_settled children settled, joinTexts_cons,
    joinToken_of_not_isText rfl] at joined
  injection List.append_cancel_left joined

/-! ## Forests -/

theorem noLeadingText_render {tree : Tree} (tidy : tree.Tidy)
    (noText : tree.isText = false) (later : List Char) :
    NoLeadingText (tokens (tree.render ++ later)) := by
  cases tree with
  | node content children =>
      cases content with
      | document =>
          exact tidy.elim
      | element element =>
          obtain ⟨plain, childless, -⟩ := tidy
          rw [render_element childless, List.cons_append, List.append_assoc,
            plain.tokens_inside]
          obtain ⟨more, first⟩ := scanStart_eq_cons
            (element.inside ++ ('>' :: element.rest children ++ later))
          rw [first]
          rfl
      | text text =>
          cases noText
      | comment text =>
          rw [Tree.render, tokens_comment tidy.1]
          rfl
      | declaration text =>
          rw [Tree.render, tokens_declaration tidy.1 tidy.2.1]
          rfl

theorem apart_renderAll {forest : List Tree} (tidy : TidyAll forest)
    (noText : forest.head?.any Tree.isText = false) {later : List Char}
    (apart : Apart later) : Apart (renderAll forest ++ later) := by
  refine ⟨endsText_renderAll tidy noText apart.ends, ?_⟩
  cases forest with
  | nil =>
      exact apart.read
  | cons tree rest =>
      rw [renderAll, List.append_assoc]
      exact noLeadingText_render tidy.1 noText _

mutual

/-- A tree that is read as it was written is legible, and what follows it is
read on its own. -/
theorem isLegible_of_joinTexts (tree : Tree) (tidy : tree.Tidy)
    (settled : tree.Settled) {later : List Char}
    (apart : tree.isText = true → Apart later) {rest : List Token}
    (joined : joinTexts (tokens (tree.render ++ later)) =
      tree.written ++ rest) :
    tree.isLegible = true ∧ joinTexts (tokens later) = rest := by
  cases tree with
  | node content children =>
      cases content with
      | document =>
          exact tidy.elim
      | element element =>
          obtain ⟨plain, childless, below⟩ := tidy
          rw [render_element childless, List.cons_append, List.append_assoc,
            List.cons_append, Tree.written, List.cons_append] at joined
          -- The first token alone shows where the tag was cut.
          have closed : element.isSealed = true := by
            obtain ⟨more, first⟩ := scanStart_eq_cons
              (element.inside ++ '>' :: (element.rest children ++ later))
            rw [plain.tokens_inside, first, List.cons_append, joinTexts_cons,
              joinToken_of_not_isText rfl] at joined
            injection joined with same _
            injection same with name attributes _
            exact plain.isSealed_of_startTag name attributes
          rw [plain.tokens_start closed, joinTexts_cons,
            joinToken_of_not_isText rfl] at joined
          injection joined with _ joined
          by_cases alone : element.isAlone = true
          · rw [raw_eq_false_of_isAlone alone, if_neg Bool.false_ne_true,
              Element.rest, if_pos alone, if_pos alone] at joined
            exact ⟨by rw [Tree.isLegible, closed, alone]; rfl, joined⟩
          · rw [Bool.not_eq_true] at alone
            have notClosing : element.selfClosing = false := by
              rw [Element.isAlone, Bool.or_eq_false_iff] at alone
              exact alone.1
            rw [notClosing, Element.rest, alone, if_neg Bool.false_ne_true,
              if_neg Bool.false_ne_true, Bool.not_false, Bool.true_and,
              List.append_assoc, Element.close_append,
              List.append_assoc, List.singleton_append] at joined
            rw [Tree.isLegible, closed, alone]
            by_cases raw : isRawText element.tag = true
            · rw [if_pos raw] at joined ⊢
              obtain ⟨content, open_, followed⟩ :=
                plain.rawContent_of_joinTexts raw below settled joined
              rw [content, open_]
              exact ⟨rfl, followed⟩
            · rw [if_neg raw] at joined ⊢
              obtain ⟨legible, ended⟩ := areLegible_of_joinTexts children
                below settled (plain.apart_endTag later) joined
              obtain ⟨open_, followed⟩ := plain.endTag_of_joinTexts ended
              rw [legible, open_]
              exact ⟨rfl, followed⟩
      | text text =>
          obtain ⟨harmless, followed⟩ :=
            isHarmless_of_joinTexts tidy.1 (apart rfl) joined
          exact ⟨harmless, followed⟩
      | comment text =>
          rw [Tree.render, tokens_comment tidy.1, joinTexts_cons,
            joinToken_of_not_isText rfl] at joined
          injection joined with _ followed
          exact ⟨rfl, followed⟩
      | declaration text =>
          rw [Tree.render, tokens_declaration tidy.1 tidy.2.1, joinTexts_cons,
            joinToken_of_not_isText rfl] at joined
          injection joined with _ followed
          exact ⟨rfl, followed⟩

theorem areLegible_of_joinTexts (forest : List Tree) (tidy : TidyAll forest)
    (settled : SettledAll forest) {later : List Char} (apart : Apart later)
    {rest : List Token}
    (joined : joinTexts (tokens (renderAll forest ++ later)) =
      writtenAll forest ++ rest) :
    areLegible forest = true ∧ joinTexts (tokens later) = rest := by
  cases forest with
  | nil =>
      exact ⟨rfl, joined⟩
  | cons tree others =>
      rw [renderAll, writtenAll, List.append_assoc, List.append_assoc]
        at joined
      obtain ⟨first, followed⟩ := isLegible_of_joinTexts tree tidy.1
        settled.1
        (fun isText => apart_renderAll tidy.2 (settled.2.1 isText) apart)
        joined
      obtain ⟨legible, ended⟩ := areLegible_of_joinTexts others tidy.2
        settled.2.2 apart followed
      exact ⟨by rw [areLegible, first, legible]; rfl, ended⟩

end

/-- A settled forest is read as it was written exactly if it is legible. -/
theorem joinTexts_tokens_iff {forest : List Tree} (tidy : TidyAll forest)
    (settled : SettledAll forest) :
    joinTexts (tokens (renderAll forest)) = writtenAll forest ↔
      areLegible forest = true := by
  constructor
  · intro joined
    have apart : Apart [] := ⟨endsText_nil, by rw [tokens_nil]; rfl⟩
    rw [← List.append_nil (renderAll forest),
      ← List.append_nil (writtenAll forest)] at joined
    exact (areLegible_of_joinTexts forest tidy settled apart joined).1
  · intro legible
    have read := tokens_renderAll forest tidy settled legible endsText_nil
    have none_ : NoLeadingText [] := rfl
    have joined := joinTexts_writtenAll (breakAll forest)
      (tidyAll_breakAll forest tidy) none_
    rw [List.append_nil] at joined
    rw [List.append_nil, tokens_nil, List.append_nil] at read
    rw [read, joined, settleAll_breakAll forest tidy settled legible]
    exact List.append_nil _

end KeymapViewer.Markup
