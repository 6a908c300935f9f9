import KeymapViewer.Text.Search
import Mathlib.Data.List.Infix

/-!
How often a part occurs in a text. Of a text in front of another one it is
enough to know that no occurrence of the part begins in it; what comes after
it need not be known.
-/

namespace KeymapViewer.Text

/-- How many suffixes of a text begin with a part. -/
def occurrences (part text : List Char) : Nat :=
  text.tails.countP (part.isPrefixOf ·)

theorem occurrences_cons (part : List Char) (c : Char) (rest : List Char) :
    occurrences part (c :: rest) =
      occurrences part rest +
        if part.isPrefixOf (c :: rest) = true then 1 else 0 := by
  rw [occurrences, List.tails_cons, List.countP_cons]
  rfl

theorem contains_iff_occurrences_pos (part text : List Char) :
    contains part text = true ↔ 0 < occurrences part text := by
  induction text with
  | nil =>
      cases part with
      | nil =>
          decide
      | cons c rest =>
          simp [contains, occurrences]
  | cons c rest inductionHypothesis =>
      rw [contains, Bool.or_eq_true, inductionHypothesis, occurrences_cons]
      by_cases here : part.isPrefixOf (c :: rest) = true
      · simp [here]
      · simp [here]

theorem occurrences_pos_of_infix {part text : List Char}
    (within : part <:+: text) : 0 < occurrences part text := by
  obtain ⟨suffix, begins, ends⟩ := List.infix_iff_prefix_suffix.mp within
  exact List.countP_pos_iff.mpr
    ⟨suffix, (List.mem_tails ..).mpr ends, List.isPrefixOf_iff_prefix.mpr begins⟩

/-! ## Parts of parts -/

theorem occurrences_append_le (first second text : List Char) :
    occurrences (first ++ second) text ≤ occurrences first text := by
  refine List.countP_mono_left fun suffix _ begins => ?_
  rw [List.isPrefixOf_iff_prefix] at begins ⊢
  exact (List.prefix_append first second).trans begins

/-- Each occurrence of a text has one of its rest behind the first
character. -/
theorem occurrences_cons_le (c : Char) (part : List Char) (d : Char)
    (text : List Char) :
    occurrences (c :: part) (d :: text) ≤ occurrences part text := by
  induction text generalizing d with
  | nil =>
      cases part with
      | nil =>
          have none_ : occurrences [c] [] = 0 := by simp [occurrences]
          have one : occurrences [] [] = 1 := by decide
          rw [occurrences_cons, none_, one]
          split
          · exact le_rfl
          · exact Nat.zero_le 1
      | cons e rest =>
          simp [occurrences]
  | cons e rest inductionHypothesis =>
      rw [occurrences_cons (c :: part), occurrences_cons part]
      refine Nat.add_le_add (inductionHypothesis e) ?_
      simp only [List.isPrefixOf_cons_cons, Bool.and_eq_true]
      split
      · rename_i both
        rw [if_pos both.2]
      · exact Nat.zero_le _

/-- A text occurs no more often than a part of it. -/
theorem occurrences_le_of_infix {part whole : List Char}
    (within : part <:+: whole) (text : List Char) :
    occurrences whole text ≤ occurrences part text := by
  obtain ⟨before, after, rfl⟩ := within
  rw [List.append_assoc]
  induction before generalizing text with
  | nil =>
      exact occurrences_append_le part after text
  | cons c rest inductionHypothesis =>
      cases text with
      | nil =>
          simp [occurrences]
      | cons d others =>
          refine (occurrences_cons_le c _ d others).trans ?_
          refine (inductionHypothesis others).trans ?_
          rw [occurrences_cons]
          exact Nat.le_add_right _ _

theorem occurrences_le_append_right (part first second : List Char) :
    occurrences part first ≤ occurrences part (first ++ second) := by
  induction first with
  | nil =>
      cases part with
      | nil =>
          simp [occurrences]
      | cons c rest =>
          simp [occurrences]
  | cons c rest inductionHypothesis =>
      rw [List.cons_append, occurrences_cons, occurrences_cons]
      apply Nat.add_le_add inductionHypothesis
      split
      · rename_i here
        have longer : part.isPrefixOf (c :: (rest ++ second)) = true := by
          rw [List.isPrefixOf_iff_prefix] at here ⊢
          exact here.trans (List.prefix_append (c :: rest) second)
        rw [if_pos longer]
      · exact Nat.zero_le _

theorem occurrences_le_append_left (part first second : List Char) :
    occurrences part second ≤ occurrences part (first ++ second) := by
  induction first with
  | nil =>
      exact Nat.le_refl _
  | cons c rest inductionHypothesis =>
      rw [List.cons_append, occurrences_cons]
      exact inductionHypothesis.trans (Nat.le_add_right _ _)

/-! ## Characters that a part does not have -/

section Stop

variable {stop : Char} {part : List Char}

theorem prefix_append_cons_iff (absent : stop ∉ part)
    (first second : List Char) :
    part <+: first ++ stop :: second ↔ part <+: first := by
  constructor
  · intro begins
    rcases List.prefix_or_prefix_of_prefix begins
      (List.prefix_append first (stop :: second)) with short | ⟨more, rfl⟩
    · exact short
    · rw [List.prefix_append_right_inj] at begins
      cases more with
      | nil =>
          rw [List.append_nil]
      | cons c rest =>
          obtain ⟨rfl, -⟩ := List.cons_prefix_cons.mp begins
          exact absurd (by simp) absent
  · intro begins
    exact begins.trans (List.prefix_append first (stop :: second))

/-- A part occurs on either side of a character that it does not have, and
nowhere across. -/
theorem occurrences_append_cons (absent : stop ∉ part) (nonempty : part ≠ [])
    (first second : List Char) :
    occurrences part (first ++ stop :: second) =
      occurrences part first + occurrences part second := by
  have nowhere : occurrences part [] = 0 := by
    simp [occurrences, nonempty]
  induction first with
  | nil =>
      have notHere : ¬part.isPrefixOf (stop :: second) = true := by
        rw [List.isPrefixOf_iff_prefix]
        intro begins
        have short := (prefix_append_cons_iff absent [] second).mp begins
        exact nonempty (List.prefix_nil.mp short)
      rw [List.nil_append, occurrences_cons, if_neg notHere, nowhere,
        Nat.add_zero, Nat.zero_add]
  | cons c rest inductionHypothesis =>
      have same : part.isPrefixOf (c :: (rest ++ stop :: second)) =
          part.isPrefixOf (c :: rest) := by
        rw [Bool.eq_iff_iff, List.isPrefixOf_iff_prefix,
          List.isPrefixOf_iff_prefix]
        exact prefix_append_cons_iff absent (c :: rest) second
      rw [List.cons_append, occurrences_cons, occurrences_cons, same,
        inductionHypothesis, Nat.add_right_comm]

end Stop

/-! ## Texts in which a part does not begin -/

/-- Whether one of two texts begins with the other. -/
def agrees (first second : List Char) : Bool :=
  first.isPrefixOf second || second.isPrefixOf first

theorem isPrefixOf_append_of_not_agrees {part text : List Char}
    (apart : agrees part text = false) (later : List Char) :
    part.isPrefixOf (text ++ later) = false := by
  rw [agrees, Bool.or_eq_false_iff] at apart
  rw [Bool.eq_false_iff, ne_eq, List.isPrefixOf_iff_prefix]
  intro begins
  rcases List.prefix_or_prefix_of_prefix begins
    (List.prefix_append text later) with short | long
  · rw [List.isPrefixOf_iff_prefix.mpr short] at apart
    exact absurd apart.1 Bool.true_eq_false.mp
  · rw [List.isPrefixOf_iff_prefix.mpr long] at apart
    exact absurd apart.2 Bool.true_eq_false.mp

theorem agrees_append {part text : List Char}
    (apart : agrees part text = false) (later : List Char) :
    agrees part (text ++ later) = false := by
  have noPart := isPrefixOf_append_of_not_agrees apart later
  rw [agrees, Bool.or_eq_false_iff] at apart
  rw [agrees, noPart, Bool.false_or, Bool.eq_false_iff, ne_eq,
    List.isPrefixOf_iff_prefix]
  intro long
  have short := (List.prefix_append text later).trans long
  rw [List.isPrefixOf_iff_prefix.mpr short] at apart
  exact absurd apart.2 Bool.true_eq_false.mp

/-- Whether no occurrence of a part begins in a text, whatever comes after
it. -/
def isClearOf (part : List Char) : List Char → Bool
  | [] => true
  | c :: rest => !agrees part (c :: rest) && isClearOf part rest

theorem isClearOf_append {part first second : List Char}
    (clearFirst : isClearOf part first = true)
    (clearSecond : isClearOf part second = true) :
    isClearOf part (first ++ second) = true := by
  induction first with
  | nil =>
      exact clearSecond
  | cons c rest inductionHypothesis =>
      rw [isClearOf, Bool.and_eq_true, Bool.not_eq_true'] at clearFirst
      have apart := agrees_append clearFirst.1 second
      rw [List.cons_append] at apart ⊢
      rw [isClearOf, apart, inductionHypothesis clearFirst.2]
      rfl

theorem isClearOf_of_notMem {c : Char} {part text : List Char}
    (absent : c ∉ text) : isClearOf (c :: part) text = true := by
  induction text with
  | nil =>
      rfl
  | cons d rest inductionHypothesis =>
      rw [List.mem_cons, not_or] at absent
      have differs : (c == d) = false := beq_eq_false_iff_ne.mpr absent.1
      have differs' : (d == c) = false :=
        beq_eq_false_iff_ne.mpr (Ne.symm absent.1)
      rw [isClearOf, agrees, List.isPrefixOf_cons_cons,
        List.isPrefixOf_cons_cons, differs, differs',
        inductionHypothesis absent.2]
      rfl

theorem occurrences_append_of_isClearOf {part text : List Char}
    (clear : isClearOf part text = true) (later : List Char) :
    occurrences part (text ++ later) = occurrences part later := by
  induction text with
  | nil =>
      rfl
  | cons c rest inductionHypothesis =>
      rw [isClearOf, Bool.and_eq_true, Bool.not_eq_true'] at clear
      have notHere := isPrefixOf_append_of_not_agrees clear.1 later
      rw [List.cons_append] at notHere ⊢
      rw [occurrences_cons, notHere, inductionHypothesis clear.2]
      rfl

/-! ## The last occurrence -/

/-- A text is split around the last occurrence of a part. -/
structure IsLastCut (part text before after : List Char) : Prop where
  whole : text = before ++ part ++ after
  /-- No occurrence begins behind the one that is cut out. -/
  last : occurrences part (part ++ after) = 1

theorem cutLast?_eq_none_iff {separator text : List Char}
    (nonempty : separator ≠ []) :
    cutLast? separator text = none ↔ occurrences separator text = 0 := by
  induction text with
  | nil =>
      cases separator with
      | nil =>
          exact absurd rfl nonempty
      | cons c rest =>
          simp [cutLast?, occurrences]
  | cons c rest inductionHypothesis =>
      rw [cutLast?, occurrences_cons, Nat.add_eq_zero_iff,
        ← inductionHypothesis]
      split
      · rename_i found
        simp [found]
      · rename_i found
        simp [found]

/-- The last occurrence is where a text is cut. -/
theorem cutLast?_eq_some_iff {separator text before after : List Char}
    (nonempty : separator ≠ []) :
    cutLast? separator text = some (before, after) ↔
      IsLastCut separator text before after := by
  induction text generalizing before with
  | nil =>
      constructor
      · intro found
        cases found
      · rintro ⟨whole, -⟩
        have empty := List.append_eq_nil_iff.mp whole.symm
        exact absurd (List.append_eq_nil_iff.mp empty.1).2 nonempty
  | cons c rest inductionHypothesis =>
      constructor
      · intro found
        rw [cutLast?] at found
        split at found
        · rename_i inRest
          cases found
          obtain ⟨whole, last⟩ := inductionHypothesis.mp inRest
          exact ⟨congrArg (c :: ·) whole, last⟩
        · rename_i notInRest
          split at found
          · rename_i here
            cases found
            have whole := List.prefix_iff_eq_append.mp
              (List.isPrefixOf_iff_prefix.mp here)
            refine ⟨whole.symm, ?_⟩
            rw [whole, occurrences_cons, if_pos here,
              (cutLast?_eq_none_iff nonempty).mp notInRest]
          · cases found
      · rintro ⟨whole, last⟩
        cases before with
        | nil =>
            rw [List.nil_append] at whole
            have here : separator.isPrefixOf (c :: rest) = true := by
              rw [whole, List.isPrefixOf_iff_prefix]
              exact List.prefix_append separator after
            rw [← whole, occurrences_cons, if_pos here] at last
            rw [cutLast?, (cutLast?_eq_none_iff nonempty).mpr
              (Nat.succ.inj last)]
            simp only [here, if_true]
            rw [whole, List.drop_left]
        | cons d others =>
            obtain ⟨rfl, inRest⟩ := List.cons_eq_cons.mp whole
            rw [cutLast?, inductionHypothesis.mpr ⟨inRest, last⟩]

end KeymapViewer.Text
