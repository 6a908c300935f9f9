import KeymapViewer.Text.Blank
import KeymapViewer.Text.Search
import Mathlib.Data.List.DropRight
import Mathlib.Data.List.TakeWhile

/-!
Texts that are cut and trimmed. A text is cut where it was put together, as long
as what is sought does not come before; and once the white space is gone from
the ends of a text, there is none there.
-/

namespace KeymapViewer.Text

/-! ## Reading up to a character -/

section Stop

variable {stop : Char} {text : List Char}

theorem forall_bne_iff :
    (∀ c ∈ text, (c != stop) = true) ↔ stop ∉ text := by
  constructor
  · intro differ member
    exact bne_iff_ne.mp (differ stop member) rfl
  · intro absent c member
    exact bne_iff_ne.mpr fun same => absent (same ▸ member)

theorem all_bne_iff : text.all (· != stop) = true ↔ stop ∉ text :=
  List.all_eq_true.trans forall_bne_iff

theorem takeWhile_append_cons (absent : stop ∉ text) (rest : List Char) :
    (text ++ stop :: rest).takeWhile (· != stop) = text := by
  rw [List.takeWhile_append_of_pos (forall_bne_iff.mpr absent)]
  simp

theorem dropWhile_append_cons (absent : stop ∉ text) (rest : List Char) :
    (text ++ stop :: rest).dropWhile (· != stop) = stop :: rest := by
  rw [List.dropWhile_append_of_pos (forall_bne_iff.mpr absent)]
  simp

end Stop

/-! ## Cutting -/

/-- A text is cut where it was put together, if what is sought is found there
and not before. -/
theorem breakBefore_append_of_found
    {found : List Char → Bool} {text later : List Char}
    (absent : ∀ before after, text = before ++ after → after ≠ [] →
      found (after ++ later) = false)
    (there : later = [] ∨ found later = true) :
    breakBefore found (text ++ later) = (text, later) := by
  induction text with
  | nil =>
      cases later with
      | nil =>
          rfl
      | cons c rest =>
          have known : found (c :: rest) = true :=
            there.resolve_left (List.cons_ne_nil c rest)
          rw [List.nil_append, breakBefore, if_pos known]
  | cons c rest inductionHypothesis =>
      have notHere : found (c :: (rest ++ later)) = false :=
        absent [] (c :: rest) rfl (List.cons_ne_nil c rest)
      rw [List.cons_append, breakBefore, notHere,
        if_neg Bool.false_ne_true,
        inductionHypothesis fun before after split nonempty =>
          absent (c :: before) after (by rw [split]; rfl) nonempty]

/-- A single character is not found in a text without it. -/
theorem breakBefore_singleton {separator : Char} {text later : List Char}
    (absent : separator ∉ text)
    (there : later = [] ∨ [separator].isPrefixOf later = true) :
    breakBefore ([separator].isPrefixOf ·) (text ++ later) =
      (text, later) := by
  refine breakBefore_append_of_found (fun before after split nonempty => ?_)
    there
  obtain ⟨c, rest, rfl⟩ := List.exists_cons_of_ne_nil nonempty
  have differs : separator ≠ c := by
    rintro rfl
    exact absent (by simp [split])
  rw [List.cons_append, List.isPrefixOf_cons_cons, beq_false_of_ne differs,
    Bool.false_and]

theorem cut?_append_cons {separator : Char} {before : List Char}
    (absent : separator ∉ before) (after : List Char) :
    cut? [separator] (before ++ separator :: after) =
      some (before, after) := by
  rw [cut?, breakBefore_singleton absent (.inr (by simp))]
  rfl

theorem cut?_eq_none {separator : Char} {text : List Char}
    (absent : separator ∉ text) : cut? [separator] text = none := by
  have whole := breakBefore_singleton absent (.inl rfl)
  rw [List.append_nil] at whole
  rw [cut?, whole]

theorem cut?_eq_some_iff {separator : Char} {text before after : List Char} :
    cut? [separator] text = some (before, after) ↔
      separator ∉ before ∧ text = before ++ separator :: after := by
  constructor
  · intro found
    by_cases absent : separator ∉ text
    · rw [cut?_eq_none absent] at found
      cases found
    · obtain ⟨first, rest, rfl, notBefore⟩ :=
        List.eq_append_cons_of_mem (not_not.mp absent)
      rw [cut?_append_cons notBefore] at found
      cases found
      exact ⟨notBefore, rfl⟩
  · rintro ⟨absent, rfl⟩
    exact cut?_append_cons absent after

/-- No piece of a text has the character that the text is split at. -/
theorem notMem_of_mem_splitOn {separator : Char} {text piece : List Char}
    (member : piece ∈ text.splitOn separator) : separator ∉ piece := by
  induction text generalizing piece with
  | nil =>
      rw [List.splitOn_nil, List.mem_singleton] at member
      rw [member]
      exact List.not_mem_nil
  | cons c rest inductionHypothesis =>
      obtain ⟨first, others, pieces⟩ :=
        List.exists_cons_of_ne_nil (List.splitOn_ne_nil separator rest)
      rw [List.splitOn_cons_eq_if_modifyHead, pieces] at member
      rw [pieces] at inductionHypothesis
      split at member
      · rcases List.mem_cons.mp member with rfl | later
        · exact List.not_mem_nil
        · exact inductionHypothesis later
      · rename_i differs
        rcases List.mem_cons.mp member with rfl | later
        · rw [List.mem_cons, not_or]
          exact ⟨fun same => differs (beq_iff_eq.mpr same.symm),
            inductionHypothesis (List.mem_cons_self ..)⟩
        · exact inductionHypothesis (List.mem_cons_of_mem _ later)

/-! ## Trimming -/

theorem isPrefix_trimEnd (text : List Char) : trimEnd text <+: text :=
  List.rdropWhile_prefix isBlank text

theorem mem_of_mem_trim {c : Char} {text : List Char}
    (member : c ∈ trim text) : c ∈ text :=
  (List.dropWhile_sublist isBlank).subset
    ((isPrefix_trimEnd (trimStart text)).subset member)

theorem trim_cons_of_isBlank {c : Char} (blank : isBlank c = true)
    (text : List Char) : trim (c :: text) = trim text := by
  rw [trim, trim, trimStart, List.dropWhile_cons_of_pos blank, trimStart]

/-- Nothing that is left at the start of a trimmed text is white space. -/
theorem trimStart_trim (text : List Char) :
    trimStart (trim text) = trim text := by
  rw [trimStart, List.dropWhile_eq_self_iff]
  intro nonempty
  obtain ⟨rest, split⟩ := isPrefix_trimEnd (trimStart text)
  have first := List.head?_dropWhile_not isBlank text
  rw [← trimStart, ← split, ← trim, List.head?_append,
    List.head?_eq_getElem?, List.getElem?_eq_getElem nonempty] at first
  exact Bool.eq_false_iff.mp first

theorem trim_trim (text : List Char) : trim (trim text) = trim text := by
  rw [trim, trimStart_trim]
  exact List.rdropWhile_idempotent isBlank (trimStart text)

end KeymapViewer.Text
