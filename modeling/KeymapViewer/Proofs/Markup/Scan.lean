import KeymapViewer.Proofs.Markup.Tag
import KeymapViewer.Proofs.Text.Cut

/-!
The tokens of a text piece by piece. A piece is read as one token whatever
comes after it, as long as nothing inside it ends it early.
-/

namespace KeymapViewer.Markup

open Text

/-! ## One step -/

@[simp]
theorem tokens_nil : tokens [] = [] := by
  rw [tokens]

theorem tokens_open (rest : List Char) :
    tokens ('<' :: rest) = (scanTag rest).1 ++ tokens (scanTag rest).2 := by
  rw [tokens, if_pos rfl]

theorem tokens_run {c : Char} (text : c ≠ '<') (rest : List Char) :
    tokens (c :: rest) =
      .text (String.ofList (c :: rest.takeWhile (· != '<'))) ::
        tokens (rest.dropWhile (· != '<')) := by
  rw [tokens, if_neg text]

/-! ## Texts -/

/-- The characters that make a `<` before them the start of a tag, a comment
or a declaration. -/
def opensMarkup (c : Char) : Bool := c.isAlpha || c == '!' || c == '/'

/-- Whether no `<` in a text starts anything. -/
def isHarmless : List Char → Bool
  | [] => true
  | c :: rest =>
    !(c == '<' && rest.head?.any opensMarkup) && isHarmless rest

/-- Whether a text is at its end or goes on with markup. -/
def EndsText (later : List Char) : Prop := ∀ c ∈ later.head?, c = '<'

theorem endsText_nil : EndsText [] := by
  simp [EndsText]

theorem scanTag_of_text {later : List Char}
    (closed : later.head?.any opensMarkup = false) :
    scanTag later = ([.text "<"], later) := by
  cases later with
  | nil =>
      rfl
  | cons c rest =>
      simp only [List.head?_cons, Option.any_some, opensMarkup,
        Bool.or_eq_false_iff, beq_eq_false_iff_ne] at closed
      obtain ⟨⟨letter, mark⟩, slash⟩ := closed
      unfold scanTag
      split
      · rename_i same
        cases same
        exact absurd rfl mark
      · rename_i same
        cases same
        exact absurd rfl mark
      · rename_i same
        cases same
        exact absurd rfl slash
      · rename_i same
        cases same
        rw [if_neg (by rw [letter]; exact Bool.false_ne_true)]
      · rename_i same
        cases same

theorem EndsText.any_eq_false {later : List Char} (ends : EndsText later) :
    later.head?.any opensMarkup = false := by
  cases later with
  | nil =>
      rfl
  | cons c rest =>
      have same : c = '<' := ends c rfl
      have closed : opensMarkup '<' = false := by
        decide
      rw [same]
      exact closed

theorem takeWhile_append_of_endsText {later : List Char}
    (ends : EndsText later) (text : List Char) :
    (text ++ later).takeWhile (· != '<') = text.takeWhile (· != '<') ∧
      (text ++ later).dropWhile (· != '<') =
        text.dropWhile (· != '<') ++ later := by
  induction text with
  | nil =>
      cases later with
      | nil =>
          exact ⟨rfl, rfl⟩
      | cons c rest =>
          have same : c = '<' := ends c rfl
          subst same
          exact ⟨rfl, rfl⟩
  | cons c rest inductionHypothesis =>
      by_cases opens : c = '<'
      · subst opens
        exact ⟨rfl, rfl⟩
      · have keeps : (c != '<') = true := bne_iff_ne.mpr opens
        simp only [List.cons_append, List.takeWhile_cons,
          List.dropWhile_cons, keeps, ↓reduceIte, inductionHypothesis,
          and_self]

theorem isHarmless_dropWhile {text : List Char}
    (harmless : isHarmless text = true) (p : Char → Bool) :
    isHarmless (text.dropWhile p) = true := by
  induction text with
  | nil =>
      rfl
  | cons c rest inductionHypothesis =>
      rw [List.dropWhile_cons]
      split
      · rw [isHarmless, Bool.and_eq_true] at harmless
        exact inductionHypothesis harmless.2
      · exact harmless

theorem isHarmless_of_notMem {text : List Char} (absent : '<' ∉ text) :
    isHarmless text = true := by
  induction text with
  | nil =>
      rfl
  | cons c rest inductionHypothesis =>
      rw [List.mem_cons, not_or] at absent
      have other : (c == '<') = false :=
        beq_eq_false_iff_ne.mpr (Ne.symm absent.1)
      rw [isHarmless, inductionHypothesis absent.2, other]
      rfl

/-- A text without brackets is a single run. -/
theorem tokens_of_notMem {text : List Char} (nonempty : text ≠ [])
    (absent : '<' ∉ text) : tokens text = [.text (String.ofList text)] := by
  cases text with
  | nil =>
      exact absurd rfl nonempty
  | cons c rest =>
      rw [List.mem_cons, not_or] at absent
      have keeps : ∀ d ∈ rest, (d != '<') = true :=
        forall_bne_iff.mpr absent.2
      rw [tokens_run (Ne.symm absent.1),
        List.takeWhile_eq_self_iff.mpr keeps,
        List.dropWhile_eq_nil_iff.mpr keeps, tokens_nil]

/-- A harmless text is read on its own. -/
theorem tokens_append {text : List Char} (harmless : isHarmless text = true)
    {later : List Char} (ends : EndsText later) :
    tokens (text ++ later) = tokens text ++ tokens later := by
  induction size : text.length using Nat.strong_induction_on
    generalizing text with
  | _ count inductionHypothesis =>
  cases text with
  | nil =>
      rw [tokens_nil, List.nil_append, List.nil_append]
  | cons c rest =>
      rw [List.cons_append]
      have split := harmless
      rw [isHarmless, Bool.and_eq_true, Bool.not_eq_true'] at split
      by_cases opens : c = '<'
      · subst opens
        have closed : rest.head?.any opensMarkup = false := by
          simpa using split.1
        have closedWhole : (rest ++ later).head?.any opensMarkup = false := by
          cases rest with
          | nil =>
              exact ends.any_eq_false
          | cons d others =>
              exact closed
        rw [tokens_open, tokens_open, scanTag_of_text closed,
          scanTag_of_text closedWhole, List.append_assoc]
        exact congrArg _ (inductionHypothesis rest.length
          (by simp [← size]) split.2 rfl)
      · obtain ⟨taken, dropped⟩ := takeWhile_append_of_endsText ends rest
        have shorter : (rest.dropWhile (· != '<')).length < count := by
          have := length_dropWhile_le (· != '<') rest
          rw [← size, List.length_cons]
          omega
        rw [tokens_run opens, tokens_run opens, taken, dropped,
          List.cons_append]
        exact congrArg _ (inductionHypothesis _ shorter
          (isHarmless_dropWhile split.2 _) rfl)

/-! ## Comments and declarations -/

/-- Whether something is found at some place of a text. -/
def occurs (found : List Char → Bool) : List Char → Bool
  | [] => false
  | c :: rest => found (c :: rest) || occurs found rest

theorem not_found_of_occurs {found : List Char → Bool} {text : List Char}
    (absent : occurs found text = false) {before after : List Char}
    (split : text = before ++ after) (nonempty : after ≠ []) :
    found after = false := by
  subst split
  induction before with
  | nil =>
      cases after with
      | nil =>
          exact absurd rfl nonempty
      | cons c rest =>
          rw [List.nil_append, occurs, Bool.or_eq_false_iff] at absent
          exact absent.1
  | cons c rest inductionHypothesis =>
      rw [List.cons_append, occurs, Bool.or_eq_false_iff] at absent
      exact inductionHypothesis absent.2

/-- The end of a comment does not begin inside its text. -/
theorem not_isPrefixOf_commentEnd {after : List Char}
    (absent : "-->".toList.isPrefixOf after = false) (nonempty : after ≠ [])
    (later : List Char) :
    "-->".toList.isPrefixOf (after ++ ("-->".toList ++ later)) = false := by
  match after with
  | [] =>
      exact absurd rfl nonempty
  | [first] =>
      simp [List.isPrefixOf]
  | [first, second] =>
      simp [List.isPrefixOf]
  | first :: second :: third :: rest =>
      simpa [List.isPrefixOf] using absent

theorem tokens_comment {text : List Char}
    (absent : occurs ("-->".toList.isPrefixOf ·) text = false)
    (later : List Char) :
    tokens ("<!--".toList ++ text ++ "-->".toList ++ later) =
      .comment (String.ofList text) :: tokens later := by
  have cut :
      breakBefore ("-->".toList.isPrefixOf ·)
          (text ++ ("-->".toList ++ later)) =
        (text, "-->".toList ++ later) :=
    breakBefore_append_of_found
      (fun before after split nonempty =>
        not_isPrefixOf_commentEnd
          (not_found_of_occurs absent split nonempty) nonempty later)
      (.inr rfl)
  have scanned :
      scanTag ('!' :: '-' :: '-' :: (text ++ ("-->".toList ++ later))) =
        ([.comment (String.ofList text)], later) := by
    simp only [scanTag, cut]
    rfl
  have written :
      "<!--".toList ++ text ++ "-->".toList ++ later =
        '<' :: '!' :: '-' :: '-' :: (text ++ ("-->".toList ++ later)) := by
    simp
  rw [written, tokens_open, scanned]
  rfl

theorem cutAtClose_append {text : List Char} (closed : '>' ∉ text)
    (later : List Char) :
    cutAtClose (text ++ '>' :: later) = (text, later) := by
  unfold cutAtClose
  rw [takeWhile_append_cons closed, dropWhile_append_cons closed]
  simp

theorem tokens_declaration {text : List Char} (closed : '>' ∉ text)
    (noComment : "--".toList.isPrefixOf text = false) (later : List Char) :
    tokens ("<!".toList ++ text ++ ['>'] ++ later) =
      .declaration (String.ofList text) :: tokens later := by
  have scanned :
      scanTag ('!' :: (text ++ '>' :: later)) =
        ([.declaration (String.ofList text)], later) := by
    unfold scanTag
    split
    -- Read as a comment, the text would begin with two hyphens.
    · rename_i rest same
      injection same with _ same
      match text with
      | [] =>
          cases same
      | [first] =>
          simp at same
      | first :: second :: others =>
          simp only [List.cons_append, List.cons.injEq] at same
          simp [List.isPrefixOf, same.1, same.2.1] at noComment
    · rename_i rest _ same
      cases same
      rw [cutAtClose_append closed]
    · rename_i same
      cases same
    · rename_i c rest _ noMark _ same
      cases same
      exact (noMark rfl).elim
    · rename_i same
      cases same
  have written :
      "<!".toList ++ text ++ ['>'] ++ later =
        '<' :: '!' :: (text ++ '>' :: later) := by
    simp
  rw [written, tokens_open, scanned]
  rfl

/-! ## Tags -/

theorem trim_eq_self {text : List Char}
    (solid : ∀ c ∈ text, isGap c = false) : trim text = text := by
  have noBlank : ∀ c ∈ text, isBlank c = false := by
    intro c member
    have gap := solid c member
    rw [isGap, Bool.or_eq_false_iff] at gap
    exact gap.1
  cases text with
  | nil =>
      rfl
  | cons c rest =>
      have first := noBlank c (List.mem_cons_self ..)
      have start : trimStart (c :: rest) = c :: rest := by
        rw [trimStart, List.dropWhile_cons_of_neg]
        rw [first]
        exact Bool.false_ne_true
      rw [trim, start]
      exact (endsSolid_of_forall (List.cons_ne_nil c rest) solid).trimEnd

theorem tokens_endTag {name : List Char} (nonempty : name ≠ [])
    (solid : ∀ c ∈ name, isGap c = false) (closed : '>' ∉ name)
    (later : List Char) :
    tokens ('<' :: '/' :: (name ++ '>' :: later)) =
      .endTag (String.ofList name) :: tokens later := by
  have named : name.isEmpty = false := by
    cases name with
    | nil =>
        exact absurd rfl nonempty
    | cons c rest =>
        rfl
  have scanned :
      scanTag ('/' :: (name ++ '>' :: later)) =
        ([.endTag (String.ofList name)], later) := by
    simp only [scanTag, cutAtClose_append closed, trim_eq_self solid, named,
      Bool.false_eq_true, ↓reduceIte]
  rw [tokens_open, scanned]
  rfl

/-- The end tag of an element before other text. -/
def Element.close (element : Element) (later : List Char) : List Char :=
  '<' :: '/' :: (element.tag.toList ++ '>' :: later)

/-- The tokens of what stands behind the start tag of a raw text element. -/
def rawTokens (name : String) (text : List Char) : List Token :=
  let (content, after) := breakBefore (beginsEndTag name) text
  (if content.isEmpty then [] else [.text (String.ofList content)]) ++
    tokens after

theorem scanTag_of_isAlpha {first : Char} (letter : first.isAlpha = true)
    (rest : List Char) :
    scanTag (first :: rest) = scanStart (first :: rest) := by
  unfold scanTag
  split
  · rename_i same
    cases same
    exact absurd letter (by decide)
  · rename_i same
    cases same
    exact absurd letter (by decide)
  · rename_i same
    cases same
    exact absurd letter (by decide)
  · rename_i same
    cases same
    rw [if_pos letter]
  · rename_i same
    cases same

/-- A letter behind a bracket begins a start tag, wherever that ends. -/
theorem tokens_open_of_isAlpha {text : List Char}
    (letter : text.head?.any Char.isAlpha = true) :
    tokens ('<' :: text) =
      (scanStart text).1 ++ tokens (scanStart text).2 := by
  cases text with
  | nil =>
      cases letter
  | cons first rest =>
      rw [tokens_open, scanTag_of_isAlpha letter]

/-- A start tag whose quotes are closed is read up to its own bracket. -/
theorem tokens_startTag {inside : List Char}
    (letter : inside.head?.any Char.isAlpha = true)
    (closed : quoteAfter? none inside = some none)
    {name : String} {attributes : List Attribute} {selfClosing : Bool}
    (reads : startTag inside = (name, attributes, selfClosing))
    (later : List Char) :
    tokens ('<' :: (inside ++ '>' :: later)) =
      .startTag name attributes selfClosing ::
        if !selfClosing && isRawText name then rawTokens name later
        else tokens later := by
  have begins : (inside ++ '>' :: later).head?.any Char.isAlpha = true := by
    cases inside with
    | nil =>
        cases letter
    | cons first rest =>
        exact letter
  rw [tokens_open_of_isAlpha begins, scanStart, cutTag_append closed later]
  simp only [reads]
  split
  · rfl
  · rfl

namespace Element.Plain

variable {element : Element}

theorem head?_inside (plain : element.Plain) (later : List Char) :
    (element.inside ++ later).head?.any Char.isAlpha = true := by
  obtain ⟨first, rest, written, letter⟩ := plain.letter
  rw [Element.inside, Element.renderHead, written]
  exact letter

/-- The bracket of a start tag opens it, wherever the tag ends. -/
theorem tokens_inside (plain : element.Plain) (later : List Char) :
    tokens ('<' :: (element.inside ++ later)) =
      (scanStart (element.inside ++ later)).1 ++
        tokens (scanStart (element.inside ++ later)).2 :=
  tokens_open_of_isAlpha (plain.head?_inside later)

/-- A sealed start tag is read up to its own bracket. -/
theorem tokens_start (plain : element.Plain)
    (sealed_ : element.isSealed = true) (later : List Char) :
    tokens ('<' :: (element.inside ++ '>' :: later)) =
      .startTag element.tag element.attributes element.selfClosing ::
        if !element.selfClosing && isRawText element.tag then
          rawTokens element.tag later
        else tokens later := by
  have letter := plain.head?_inside []
  rw [List.append_nil] at letter
  exact tokens_startTag letter (quoteAfter?_inside sealed_)
    plain.startTag_inside later

end Element.Plain

/-! ## Letters -/

theorem toNat_toLower (c : Char) :
    c.toLower.toNat =
      if 65 ≤ c.toNat ∧ c.toNat ≤ 90 then c.toNat + 32 else c.toNat := by
  unfold Char.toLower
  by_cases upper : 65 ≤ c.toNat ∧ c.toNat ≤ 90
  · have known : c.val ≥ 'A'.val ∧ c.val ≤ 'Z'.val := upper
    rw [if_pos upper, dif_pos known]
    change (c.val.toNat + 32) % 4294967296 = c.val.toNat + 32
    have high : c.val.toNat ≤ 90 := upper.2
    omega
  · have known : ¬ (c.val ≥ 'A'.val ∧ c.val ≤ 'Z'.val) := upper
    rw [if_neg upper, dif_neg known]

theorem eq_of_toLower {c d : Char} (low : d.toNat < 97)
    (same : c.toLower = d) : c = d := by
  have code := toNat_toLower c
  rw [same] at code
  split at code
  · omega
  · rw [← Char.ofNat_toNat c, ← code, Char.ofNat_toNat]

theorem isAlpha_iff (c : Char) :
    c.isAlpha = true ↔
      (65 ≤ c.toNat ∧ c.toNat ≤ 90) ∨ (97 ≤ c.toNat ∧ c.toNat ≤ 122) := by
  unfold Char.isAlpha Char.isUpper Char.isLower
  simp only [Bool.or_eq_true, Bool.and_eq_true, decide_eq_true_eq]
  exact Iff.rfl

theorem isAlpha_of_toLower {c d : Char} (same : c.toLower = d.toLower)
    (letter : d.isAlpha = true) : c.isAlpha = true := by
  have first := toNat_toLower c
  have second := toNat_toLower d
  rw [same, second] at first
  rw [isAlpha_iff] at letter ⊢
  split at first
  · split at first
    · omega
    · omega
  · split at first
    · omega
    · omega

/-! ## Raw text -/

/-- The end tag of a raw text element does not begin inside its content. -/
theorem not_beginsEndTag_append {name : String} {after : List Char}
    (absent : beginsEndTag name after = false) (nonempty : after ≠ [])
    (solid : '<' ∉ name.toList) (later : List Char) :
    beginsEndTag name (after ++ '<' :: later) = false := by
  by_contra found
  rw [Bool.not_eq_false] at found
  unfold beginsEndTag at absent found
  simp only at absent found
  by_cases inside :
      ('<' :: '/' :: name.toList).length ≤ after.length
  · rw [List.take_append_of_le_length inside, absent] at found
    cases found
  -- What begins inside goes on over the `<` behind the text, which stands in
  -- no name.
  · have same := beq_iff_eq.mp found
    have there := congrArg (·[after.length]?) same
    simp only [List.getElem?_map, List.getElem?_take,
      Nat.lt_of_not_le inside, ↓reduceIte, List.getElem?_append_right,
      Nat.le_refl, Nat.sub_self, List.getElem?_cons_zero, Option.map_some]
      at there
    cases after with
    | nil =>
        exact nonempty rfl
    | cons first rest =>
        cases rest with
        | nil =>
            have slash : '/'.toLower ≠ '<'.toLower := by
              decide
            exact slash (Option.some.inj there)
        | cons second others =>
            simp only [List.length_cons, List.getElem?_cons_succ,
              Option.map_eq_some_iff] at there
            obtain ⟨c, listed, lower⟩ := there
            have member := List.mem_of_getElem? listed
            have opens : c.toLower = '<' := by
              rw [lower]
              decide
            exact solid (eq_of_toLower (by decide) opens ▸ member)

/-- No end tag begins in a text without brackets. -/
theorem occurs_beginsEndTag_of_notMem {text : List Char}
    (absent : '<' ∉ text) (name : String) :
    occurs (beginsEndTag name) text = false := by
  induction text with
  | nil =>
      rfl
  | cons c rest inductionHypothesis =>
      rw [List.mem_cons, not_or] at absent
      rw [occurs, inductionHypothesis absent.2, Bool.or_false]
      by_contra begins
      rw [Bool.not_eq_false, beginsEndTag] at begins
      have heads := congrArg List.head? (beq_iff_eq.mp begins)
      have opens : c.toLower = '<' := (Option.some.inj heads).symm
      exact absent.1 (eq_of_toLower (by decide) opens).symm

/-- The content of a raw text element is cut before its end tag. -/
theorem breakBefore_rawText {name : String} {text : List Char}
    (absent : occurs (beginsEndTag name) text = false)
    (solid : '<' ∉ name.toList) (later : List Char) :
    breakBefore (beginsEndTag name)
        (text ++ '<' :: '/' :: (name.toList ++ later)) =
      (text, '<' :: '/' :: (name.toList ++ later)) := by
  refine breakBefore_append_of_found (fun before after split nonempty => ?_)
    (.inr ?_)
  · exact not_beginsEndTag_append
      (not_found_of_occurs absent split nonempty) nonempty solid _
  · simp [beginsEndTag, sameIgnoringCase]

theorem isRawText_iff (name : String) :
    isRawText name = true ↔
      ∃ raw ∈ rawTextElements,
        name.toList.map Char.toLower = raw.toList.map Char.toLower := by
  simp [isRawText, sameName, sameIgnoringCase]

theorem not_mem_of_isRawText {name : String}
    (raw : isRawText name = true) {c : Char}
    (absent : ∀ known ∈ rawTextElements,
      c.toLower ∉ known.toList.map Char.toLower) : c ∉ name.toList := by
  intro member
  obtain ⟨known, listed, same⟩ := (isRawText_iff name).mp raw
  have lower : c.toLower ∈ name.toList.map Char.toLower :=
    List.mem_map_of_mem member
  rw [same] at lower
  exact absent known listed lower

end KeymapViewer.Markup
