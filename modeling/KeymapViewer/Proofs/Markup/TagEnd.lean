import Mathlib.Data.List.DropRight
import KeymapViewer.Proofs.Markup.Attribute

/-!
Where a start tag ends. It is cut at the first `>` that does not stand between
two quotes, wherever the quotes stand; but only a quote that begins the value of
an attribute opens anything when the attributes are read. A tag ends where its
attributes say as long as there is no other quote in it.
-/

namespace KeymapViewer.Markup

open Text

/-! ## Values that are open -/

/-- What follows the name of an attribute and the white space after it. -/
def afterName (text : List Char) : List Char :=
  (text.dropWhile (!endsName ·)).dropWhile isBlank

/-- The quote around a value, if it is not closed. -/
def unclosedValue? : List Char → Option Char
  | [] => none
  | quote :: content =>
    if isQuote quote && !content.contains quote then some quote else none

/-- The quote around the value of an attribute, if it is not closed; read from
the first character of the attribute. -/
def unclosed? (text : List Char) : Option Char :=
  match afterName text with
  | '=' :: rest => unclosedValue? (rest.dropWhile isBlank)
  | _ => none

/-- The quote of the attribute value that a text ends in, where attributes are
read one after another. -/
def openValue? (text : List Char) : Option Char :=
  match _found : text.dropWhile isGap with
  | [] => none
  | c :: rest =>
    (unclosed? (c :: rest)).or (openValue? (scanAttribute (c :: rest)).2)
termination_by text.length
decreasing_by
  exact length_scanAttribute_lt_of_cons _found

/-- The quote of the attribute value that the beginning of a start tag ends
in. Its attributes are read after its name. -/
def valueQuote? (before : List Char) : Option Char :=
  openValue? (before.dropWhile (!isGap ·))

/-! ## Quotes in pairs -/

/-- The quote that is open after one more character, where every quote that is
not inside a pair of quotes begins one. -/
def nextQuote (quote : Option Char) (c : Char) : Option Char :=
  match quote with
  | some q => if c = q then none else some q
  | none => if isQuote c then some c else none

/-- The quote without a partner in a text. -/
def loneQuote? (text : List Char) : Option Char :=
  text.foldl nextQuote none

/-! ## One more character -/

section

variable {text rest : List Char} {c : Char}

theorem dropWhile_concat (p : Char → Bool) (text : List Char) (c : Char) :
    (text ++ [c]).dropWhile p = text.dropWhile p ++ [c] ∨
      text.dropWhile p = [] ∧ (text ++ [c]).dropWhile p = [] := by
  rw [List.dropWhile_append]
  cases dropped : text.dropWhile p with
  | nil =>
      by_cases drops : p c = true
      · exact .inr ⟨rfl, List.dropWhile_cons_of_pos drops⟩
      · exact .inl (List.dropWhile_cons_of_neg drops)
  | cons first others =>
      exact .inl rfl

theorem afterName_concat (text : List Char) (c : Char) :
    afterName (text ++ [c]) = afterName text ++ [c] ∨
      afterName text = [] ∧ afterName (text ++ [c]) = [] := by
  unfold afterName
  rcases dropWhile_concat (!endsName ·) text c with later | ⟨none_, same⟩
  · rw [later]
    exact dropWhile_concat isBlank _ c
  · rw [none_, same]
    exact .inr ⟨rfl, rfl⟩

theorem snd_scanAttribute_of_valued (valued : afterName text = '=' :: rest) :
    (scanAttribute text).2 = (scanValue (rest.dropWhile isBlank)).2 := by
  unfold afterName at valued
  simp only [scanAttribute, valued]

theorem snd_scanAttribute_of_bare (bare : (afterName text).head? ≠ some '=') :
    (scanAttribute text).2 = afterName text := by
  unfold afterName at bare ⊢
  unfold scanAttribute
  split
  · rename_i rest valued
    rw [valued] at bare
    exact absurd rfl bare
  · rfl

theorem unclosed?_of_valued (valued : afterName text = '=' :: rest) :
    unclosed? text = unclosedValue? (rest.dropWhile isBlank) := by
  simp only [unclosed?, valued]

theorem unclosed?_of_bare (bare : (afterName text).head? ≠ some '=') :
    unclosed? text = none := by
  unfold unclosed?
  split
  · rename_i rest valued
    rw [valued] at bare
    exact absurd rfl bare
  · rfl

theorem bne_of_notMem {quote : Char} {content : List Char}
    (alone : quote ∉ content) : ∀ other ∈ content, (other != quote) = true := by
  intro other member
  simp only [bne_iff_ne, ne_eq]
  rintro rfl
  exact alone member

/-- What one more character does to the attribute that a text begins with, when
the attribute has the given open quote and what follows it, before and
after. -/
inductive Grows (c : Char) :
    Option Char → List Char → Option Char → List Char → Prop where
  /-- It goes to what follows the attribute. -/
  | follows (rest : List Char) : Grows c none rest none (rest ++ [c])
  | within {quote : Char} {rest after : List Char} (differs : c ≠ quote) :
      Grows c (some quote) rest (some quote) after
  | closes {rest : List Char} : Grows c (some c) rest none []
  | opens {after : List Char} (quote : isQuote c = true) :
      Grows c none [] (some c) after
  /-- It goes to the attribute, or begins what follows it. -/
  | ends {after : List Char} (short : after.length ≤ 1) :
      Grows c none [] none after

theorem unclosedValue?_of_quote {quote : Char} (isQuote_ : isQuote quote = true)
    (content : List Char) :
    unclosedValue? (quote :: content) =
      if quote ∈ content then none else some quote := by
  by_cases closed : quote ∈ content
  · simp [unclosedValue?, isQuote_, closed]
  · simp [unclosedValue?, isQuote_, closed]

theorem unclosedValue?_of_unquoted {first : Char}
    (noQuote : isQuote first = false) (content : List Char) :
    unclosedValue? (first :: content) = none := by
  simp [unclosedValue?, noQuote]

theorem snd_scanValue_of_quote {quote : Char} (isQuote_ : isQuote quote = true)
    (content : List Char) :
    (scanValue (quote :: content)).2 =
      (content.dropWhile (· != quote)).drop 1 := by
  simp [scanValue, isQuote_]

theorem snd_scanValue_of_unquoted {first : Char}
    (noQuote : isQuote first = false) (content : List Char) :
    (scanValue (first :: content)).2 =
      (first :: content).dropWhile (!isBlank ·) := by
  simp [scanValue, noQuote]

/-- What is behind the closing quote grows with the text. -/
theorem drop_dropWhile_concat {quote : Char} {content : List Char}
    (closed : quote ∈ content) (c : Char) :
    ((content ++ [c]).dropWhile (· != quote)).drop 1 =
      (content.dropWhile (· != quote)).drop 1 ++ [c] := by
  obtain ⟨before, after, rfl, earlier⟩ :=
    List.eq_append_cons_of_mem closed
  have skips := bne_of_notMem earlier
  have stops : ∀ rest, (quote :: rest).dropWhile (· != quote) =
      quote :: rest := by
    intro rest
    exact List.dropWhile_cons_of_neg (by simp)
  rw [List.append_assoc, List.dropWhile_append_of_pos skips,
    List.dropWhile_append_of_pos skips, List.cons_append, stops, stops]
  rfl

theorem grows_quoted {quote : Char} (isQuote_ : isQuote quote = true)
    (content : List Char) (c : Char) :
    Grows c (unclosedValue? (quote :: content))
      (scanValue (quote :: content)).2
      (unclosedValue? (quote :: (content ++ [c])))
      (scanValue (quote :: (content ++ [c]))).2 := by
  simp only [unclosedValue?_of_quote isQuote_, snd_scanValue_of_quote isQuote_]
  by_cases closed : quote ∈ content
  · rw [if_pos closed, if_pos (List.mem_append_left _ closed),
      drop_dropWhile_concat closed]
    exact .follows _
  · rw [if_neg closed, List.dropWhile_eq_nil_iff.mpr (bne_of_notMem closed)]
    by_cases same : c = quote
    · subst same
      rw [if_pos (by simp),
        List.dropWhile_append_of_pos (bne_of_notMem closed),
        List.dropWhile_cons_of_neg (by simp)]
      exact .closes
    · rw [if_neg (by simp [closed, Ne.symm same])]
      exact .within same

theorem grows_value (value : List Char) (c : Char) :
    Grows c (unclosedValue? value) (scanValue value).2
      (unclosedValue? (value ++ [c])) (scanValue (value ++ [c])).2 := by
  cases value with
  | nil =>
      cases quote : isQuote c with
      | true =>
          rw [List.nil_append, unclosedValue?_of_quote quote,
            if_neg List.not_mem_nil]
          exact .opens quote
      | false =>
          rw [List.nil_append, unclosedValue?_of_unquoted quote,
            snd_scanValue_of_unquoted quote]
          exact .ends (length_dropWhile_le _ [c])
  | cons first content =>
      cases quote : isQuote first with
      | true =>
          exact grows_quoted quote content c
      | false =>
          rw [List.cons_append, unclosedValue?_of_unquoted quote,
            unclosedValue?_of_unquoted quote,
            snd_scanValue_of_unquoted quote, snd_scanValue_of_unquoted quote]
          rcases dropWhile_concat (!isBlank ·) (first :: content) c with
            later | ⟨none_, same⟩
          · rw [← List.cons_append, later]
            exact .follows _
          · rw [← List.cons_append, none_, same]
            exact .ends (Nat.zero_le 1)

theorem grows_attribute (text : List Char) (c : Char) :
    Grows c (unclosed? text) (scanAttribute text).2
      (unclosed? (text ++ [c])) (scanAttribute (text ++ [c])).2 := by
  have longer := afterName_concat text c
  cases name : afterName text with
  | nil =>
      have bare : (afterName text).head? ≠ some '=' := by
        simp [name]
      rw [unclosed?_of_bare bare, snd_scanAttribute_of_bare bare, name]
      rw [name, List.nil_append] at longer
      by_cases equals : (afterName (text ++ [c])).head? = some '='
      · have valued : afterName (text ++ [c]) = ['='] := by
          rcases longer with one | ⟨-, none_⟩
          · rw [one] at equals ⊢
            rw [Option.some.inj equals]
          · simp [none_] at equals
        rw [unclosed?_of_valued valued, snd_scanAttribute_of_valued valued]
        exact .ends (Nat.zero_le 1)
      · rw [unclosed?_of_bare equals, snd_scanAttribute_of_bare equals]
        refine .ends ?_
        rcases longer with one | ⟨-, none_⟩
        · rw [one]
          exact Nat.le_refl 1
        · rw [none_]
          exact Nat.zero_le 1
  | cons first rest =>
      have later : afterName (text ++ [c]) = first :: (rest ++ [c]) := by
        rcases longer with later | ⟨none_, -⟩
        · rw [later, name, List.cons_append]
        · simp [name] at none_
      by_cases equals : first = '='
      · subst equals
        rw [unclosed?_of_valued name, snd_scanAttribute_of_valued name,
          unclosed?_of_valued later, snd_scanAttribute_of_valued later]
        rcases dropWhile_concat isBlank rest c with longer | ⟨none_, same⟩
        · rw [longer]
          exact grows_value _ c
        · rw [same, none_]
          exact .ends (Nat.zero_le 1)
      · have bare {text others : List Char}
            (name : afterName text = first :: others) :
            (afterName text).head? ≠ some '=' := by
          simp [name, equals]
        rw [unclosed?_of_bare (bare name),
          snd_scanAttribute_of_bare (bare name), name,
          unclosed?_of_bare (bare later),
          snd_scanAttribute_of_bare (bare later), later]
        exact .follows _

theorem openValue?_of_gaps (gaps : text.dropWhile isGap = []) :
    openValue? text = none := by
  unfold openValue?
  split
  · rfl
  · rename_i found
    simp [gaps] at found

theorem openValue?_of_cons (next : text.dropWhile isGap = c :: rest) :
    openValue? text =
      (unclosed? (c :: rest)).or
        (openValue? (scanAttribute (c :: rest)).2) := by
  rw [openValue?]
  split
  · rename_i found
    simp [next] at found
  · rename_i found
    rw [next] at found
    cases found
    rfl

/-- In one character there is no room for an equals sign and a quote. -/
theorem unclosed?_singleton (c : Char) : unclosed? [c] = none := by
  have short : (afterName [c]).length ≤ 1 :=
    (length_dropWhile_le _ _).trans (length_dropWhile_le _ [c])
  unfold unclosed?
  split
  · rename_i rest valued
    rw [valued, List.length_cons] at short
    rw [List.eq_nil_of_length_eq_zero (by omega : rest.length = 0)]
    rfl
  · rfl

theorem openValue?_of_short (short : (text.dropWhile isGap).length ≤ 1) :
    openValue? text = none := by
  cases next : text.dropWhile isGap with
  | nil =>
      exact openValue?_of_gaps next
  | cons first others =>
      rw [next, List.length_cons] at short
      obtain rfl : others = [] :=
        List.eq_nil_of_length_eq_zero (by omega)
      have less : (scanAttribute [first]).2.length < [first].length :=
        length_scanAttribute_lt_of_cons
          (by rw [← next, List.dropWhile_idempotent])
      rw [openValue?_of_cons next, unclosed?_singleton, Option.none_or,
        List.eq_nil_of_length_eq_zero (Nat.lt_one_iff.mp less)]
      exact openValue?_of_gaps rfl

/-- What one more character does to the quote that is open: it opens and
closes pairs of quotes, except that a quote may open nothing. -/
inductive Turns (c : Char) : Option Char → Option Char → Prop where
  | pairs {before after : Option Char} (same : after = nextQuote before c) :
      Turns c before after
  | strays (quote : isQuote c = true) : Turns c none none

theorem Turns.eq_nextQuote {before after : Option Char}
    (turns : Turns c before after)
    (reads : isQuote c = true → before = none → after ≠ none) :
    after = nextQuote before c := by
  cases turns with
  | pairs same =>
      exact same
  | strays quote =>
      exact absurd rfl (reads quote rfl)

theorem Turns.closed (c : Char) : Turns c none none := by
  cases quote : isQuote c with
  | true =>
      exact .strays quote
  | false =>
      exact .pairs (by simp [nextQuote, quote])

theorem Grows.turns {before after : Option Char} {others : List Char}
    (grows : Grows c before rest after others)
    (later : Turns c (openValue? rest) (openValue? (rest ++ [c]))) :
    Turns c (before.or (openValue? rest)) (after.or (openValue? others)) := by
  have nothing : openValue? [] = none := openValue?_of_gaps rfl
  cases grows with
  | follows =>
      exact later
  | within differs =>
      exact .pairs (if_neg differs).symm
  | closes =>
      rw [nothing]
      exact .pairs (if_pos rfl).symm
  | opens quote =>
      rw [nothing]
      exact .pairs (if_pos quote).symm
  | ends short =>
      rw [nothing, openValue?_of_short ((length_dropWhile_le ..).trans short)]
      exact .closed c

theorem openValue?_concat (text : List Char) (c : Char) :
    Turns c (openValue? text) (openValue? (text ++ [c])) := by
  induction size : text.length using Nat.strong_induction_on
    generalizing text with
  | _ size inductionHypothesis =>
      have longer := dropWhile_concat isGap text c
      cases next : text.dropWhile isGap with
      | nil =>
          have short : ((text ++ [c]).dropWhile isGap).length ≤ 1 := by
            rcases longer with later | ⟨-, none_⟩
            · simp [later, next]
            · simp [none_]
          rw [openValue?_of_gaps next, openValue?_of_short short]
          exact .closed c
      | cons first others =>
          have later : (text ++ [c]).dropWhile isGap =
              (first :: others) ++ [c] := by
            rcases longer with later | ⟨none_, -⟩
            · rw [later, next]
            · simp [next] at none_
          have shorter := length_scanAttribute_lt_of_cons next
          rw [openValue?_of_cons next, openValue?_of_cons later]
          exact (grows_attribute (first :: others) c).turns
            (inductionHypothesis _ (size ▸ shorter) _ rfl)

/-- In the name of a tag, and in front of it, no value is open. -/
theorem valueQuote?_concat (before : List Char) (c : Char) :
    Turns c (valueQuote? before) (valueQuote? (before ++ [c])) := by
  unfold valueQuote?
  rcases dropWhile_concat (!isGap ·) before c with later | ⟨none_, same⟩
  · rw [later]
    exact openValue?_concat _ c
  · rw [same, none_, openValue?_of_gaps rfl]
    exact .closed c

end

/-! ## Where a tag is cut -/

/-- The parts are what stands before and behind the first `>` at which no quote
is open, or everything and nothing where there is no such `>`. -/
structure CutsAt (open? : List Char → Option Char) (text : List Char)
    (cut : List Char × List Char) : Prop where
  splits : text = cut.1 ++ '>' :: cut.2 ∨ cut = (text, [])
  first (before : List Char) (stands : before ++ ['>'] <+: text)
    (reached : before.length ≤ cut.1.length) :
    open? before = none ↔ before = cut.1

section

variable {open? others? : List Char → Option Char} {text : List Char}
  {cut : List Char × List Char}

theorem CutsAt.cons {c : Char} (passes : c = '>' → open? [] ≠ none)
    (cuts : CutsAt (fun before => open? (c :: before)) text cut) :
    CutsAt open? (c :: text) (c :: cut.1, cut.2) where
  splits := by
    rcases cuts.splits with split | all
    · exact .inl (by rw [split, List.cons_append])
    · exact .inr (by rw [all])
  first before stands reached := by
    cases before with
    | nil =>
        have open_ := passes (List.cons_prefix_cons.mp stands).1.symm
        simp [open_]
    | cons d others =>
        obtain ⟨rfl, later⟩ := List.cons_prefix_cons.mp stands
        rw [cuts.first others later (Nat.le_of_succ_le_succ reached)]
        simp

theorem cutsAt_cutTag (quote : Option Char) (text : List Char) :
    CutsAt (List.foldl nextQuote quote) text (cutTag quote text) := by
  induction text generalizing quote with
  | nil =>
      refine ⟨.inr rfl, fun before stands => ?_⟩
      exact absurd (List.prefix_nil.mp stands) (by simp)
  | cons c rest inductionHypothesis =>
      cases quote with
      | some q =>
          exact .cons (fun _ => Option.some_ne_none q)
            (inductionHypothesis (nextQuote (some q) c))
      | none =>
          by_cases closes : c = '>'
          · rw [cutTag, if_pos closes, closes]
            refine ⟨.inl rfl, fun before _ reached => ?_⟩
            obtain rfl := List.eq_nil_of_length_eq_zero (Nat.le_zero.mp reached)
            exact iff_of_true rfl rfl
          · rw [cutTag, if_neg closes]
            exact .cons (fun same => absurd same closes)
              (inductionHypothesis (nextQuote none c))

/-- Two ways to tell which quotes are open cut a text at one place if and only
if they agree at each `>` up to there. -/
theorem CutsAt.iff_agree (cuts : CutsAt open? text cut) :
    CutsAt others? text cut ↔
      ∀ before, before ++ ['>'] <+: text → before.length ≤ cut.1.length →
        (others? before = none ↔ open? before = none) := by
  constructor
  · intro same before stands reached
    rw [cuts.first before stands reached, same.first before stands reached]
  · intro agree
    refine ⟨cuts.splits, fun before stands reached => ?_⟩
    rw [agree before stands reached, cuts.first before stands reached]

theorem CutsAt.prefix_inside (cuts : CutsAt open? text cut) :
    cut.1 <+: text := by
  rcases cuts.splits with split | all
  · exact ⟨'>' :: cut.2, split.symm⟩
  · exact all ▸ List.prefix_refl text

end

/-! ## Quotes that begin no value -/

/-- There is a quote in a text that neither begins nor ends the value of an
attribute, nor stands inside one that has quotes around it: it is read as part
of a name or of a value without quotes. -/
def HasStrayQuote (text : List Char) : Prop :=
  ∃ before quote, before ++ [quote] <+: text ∧ isQuote quote = true ∧
    valueQuote? before = none ∧ valueQuote? (before ++ [quote]) = none

theorem HasStrayQuote.mono {first text : List Char} (within : first <+: text)
    (stray : HasStrayQuote first) : HasStrayQuote text := by
  obtain ⟨before, quote, stands, read⟩ := stray
  exact ⟨before, quote, stands.trans within, read⟩

/-- Without stray quotes, the values with quotes around them are what stands
between two quotes. -/
theorem valueQuote?_eq_loneQuote? {text : List Char}
    (tidy : ¬ HasStrayQuote text) : valueQuote? text = loneQuote? text := by
  induction text using List.reverseRecOn with
  | nil =>
      exact openValue?_of_gaps rfl
  | append_singleton before c inductionHypothesis =>
      have same := inductionHypothesis fun stray =>
        tidy (stray.mono (List.prefix_append before [c]))
      have next := (valueQuote?_concat before c).eq_nextQuote
        fun quote closed none_ => tidy
          ⟨before, c, List.prefix_refl _, quote, closed, none_⟩
      rw [next, same, loneQuote?, loneQuote?, List.foldl_append]
      rfl

/-- A start tag ends at the first `>` outside pairs of quotes. That is the first
`>` outside the values with quotes around them if and only if pairs and values
agree on each `>` up to there, as they do where no quote in the tag is
stray. -/
theorem cutsAt_values_cutTag_iff (text : List Char) :
    CutsAt loneQuote? text (cutTag none text) ∧
      (CutsAt valueQuote? text (cutTag none text) ↔
        ∀ before, before ++ ['>'] <+: text →
          before.length ≤ (cutTag none text).1.length →
            (valueQuote? before = none ↔ loneQuote? before = none)) ∧
      (¬ HasStrayQuote (cutTag none text).1 →
        CutsAt valueQuote? text (cutTag none text)) := by
  have cuts : CutsAt loneQuote? text (cutTag none text) :=
    cutsAt_cutTag none text
  refine ⟨cuts, cuts.iff_agree, fun tidy => cuts.iff_agree.mpr ?_⟩
  intro before stands reached
  have within : before <+: (cutTag none text).1 :=
    List.prefix_of_prefix_length_le
      ((List.prefix_append before ['>']).trans stands) cuts.prefix_inside
      reached
  rw [valueQuote?_eq_loneQuote? fun stray => tidy (stray.mono within)]

/-- In `<p title=it's>x</p>` the apostrophe is part of a value without quotes,
and nothing of what follows it is left. -/
theorem not_cutsAt_values_of_apostrophe :
    valueQuote? "p title=it's".toList = none ∧
      cutTag none "p title=it's>x</p>".toList =
        ("p title=it's>x</p>".toList, []) ∧
      ¬ CutsAt valueQuote? "p title=it's>x</p>".toList
        (cutTag none "p title=it's>x</p>".toList) := by
  have closed : valueQuote? "p title=it's".toList = none := by
    decide +kernel
  have swallows : cutTag none "p title=it's>x</p>".toList =
      ("p title=it's>x</p>".toList, []) := by
    decide
  refine ⟨closed, swallows, fun cuts => ?_⟩
  have last := cuts.first "p title=it's".toList (by decide) (by decide)
  rw [closed, swallows] at last
  exact absurd (last.mp rfl) (by decide)

end KeymapViewer.Markup
