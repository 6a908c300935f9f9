import KeymapViewer.Markup.Tree
import KeymapViewer.Proofs.Markup.Escape
import Mathlib.Data.List.TakeWhile

/-!
Attributes that are written and read again. The attributes of a start tag are
found one after another, each where it was written.
-/

namespace KeymapViewer.Markup

open Text

/-! ## Names -/

/-- An attribute whose name is read to its end. -/
structure Attribute.Plain (item : Attribute) : Prop where
  named : item.name ≠ ""
  solid : ∀ c ∈ item.name.toList, endsName c = false

theorem Attribute.Plain.name_ne_nil {item : Attribute}
    (plain : item.Plain) : item.name.toList ≠ [] :=
  fun same => plain.named (String.toList_eq_nil_iff.mp same)

theorem Attribute.Plain.name_eq_cons {item : Attribute}
    (plain : item.Plain) :
    ∃ first rest, item.name.toList = first :: rest ∧
      isGap first = false := by
  cases characters : item.name.toList with
  | nil =>
      exact absurd characters plain.name_ne_nil
  | cons first rest =>
      have solid := plain.solid first (by rw [characters]; simp)
      rw [endsName, Bool.or_eq_false_iff] at solid
      exact ⟨first, rest, rfl, solid.1⟩

theorem takeWhile_name {ends : Char → Bool} {name : List Char}
    (solid : ∀ c ∈ name, ends c = false) {later : List Char}
    (ended : ∀ c ∈ later.head?, ends c = true) :
    (name ++ later).takeWhile (!ends ·) = name ∧
      (name ++ later).dropWhile (!ends ·) = later := by
  have keeps : ∀ c ∈ name, (!ends c) = true := by
    intro c member
    rw [solid c member]
    rfl
  rw [List.takeWhile_append_of_pos keeps, List.dropWhile_append_of_pos keeps]
  cases later with
  | nil =>
      simp
  | cons c rest =>
      have stops : (!ends c) = false := by
        rw [ended c (by simp)]
        rfl
      simp [stops]

theorem scanAttributes_of_gaps {text : List Char}
    (gaps : text.dropWhile isGap = []) : scanAttributes text = [] := by
  rw [scanAttributes]
  split
  · rfl
  · rename_i c rest found
    rw [gaps] at found
    cases found

theorem scanAttributes_of_cons {text : List Char} {c : Char}
    {rest : List Char} (found : text.dropWhile isGap = c :: rest) :
    scanAttributes text =
      if (scanAttribute (c :: rest)).1.name.isEmpty then
        scanAttributes (scanAttribute (c :: rest)).2
      else
        (scanAttribute (c :: rest)).1 ::
          scanAttributes (scanAttribute (c :: rest)).2 := by
  rw [scanAttributes]
  split
  · rename_i none_
    rw [found] at none_
    cases none_
  · rename_i other others known
    rw [found] at known
    cases known
    rfl

/-- Each attribute leaves less text for the ones behind it. -/
theorem length_scanAttribute_lt_of_cons {text : List Char} {c : Char}
    {rest : List Char} (found : text.dropWhile isGap = c :: rest) :
    (scanAttribute (c :: rest)).2.length < text.length := by
  have notGap : isGap c = false := by
    have first := List.head?_dropWhile_not isGap text
    simpa [found] using first
  have taken := length_scanAttribute_lt notGap rest
  have skipped := length_dropWhile_le isGap text
  rw [found] at skipped
  omega

theorem name_scanAttribute (text : List Char) :
    (scanAttribute text).1.name =
      String.ofList (text.takeWhile (!endsName ·)) := by
  unfold scanAttribute
  split
  · rfl
  · rfl

/-- Gaps before the attributes make no difference. -/
theorem scanAttributes_congr {first second : List Char}
    (same : first.dropWhile isGap = second.dropWhile isGap) :
    scanAttributes first = scanAttributes second := by
  cases found : first.dropWhile isGap with
  | nil =>
      rw [scanAttributes_of_gaps found,
        scanAttributes_of_gaps (same ▸ found)]
  | cons c rest =>
      exact (scanAttributes_of_cons found).trans
        (scanAttributes_of_cons (same ▸ found)).symm

theorem dropWhile_isGap_dropWhile_isBlank (text : List Char) :
    (text.dropWhile isBlank).dropWhile isGap = text.dropWhile isGap := by
  induction text with
  | nil =>
      rfl
  | cons c rest inductionHypothesis =>
      by_cases blank : isBlank c = true
      · have gap : isGap c = true := by
          rw [isGap, blank, Bool.true_or]
        rw [List.dropWhile_cons_of_pos blank,
          List.dropWhile_cons_of_pos gap, inductionHypothesis]
      · rw [List.dropWhile_cons_of_neg blank]

/-! ## One attribute -/

section

variable {name later : List Char}

theorem dropWhile_isGap_space (plain : name ≠ [])
    (solid : ∀ c ∈ name, endsName c = false) (later : List Char) :
    (' ' :: (name ++ later)).dropWhile isGap = name ++ later := by
  cases name with
  | nil =>
      exact absurd rfl plain
  | cons first rest =>
      have ends := solid first (List.mem_cons_self ..)
      rw [endsName, Bool.or_eq_false_iff] at ends
      have space : isGap ' ' = true := by
        decide
      rw [List.dropWhile_cons_of_pos space, List.cons_append,
        List.dropWhile_cons_of_neg (by rw [ends.1]; exact Bool.false_ne_true)]

theorem scanAttributes_of_name {item : Attribute} {remaining : List Char}
    (plain : name ≠ []) (solid : ∀ c ∈ name, endsName c = false)
    (scanned : scanAttribute (name ++ later) = (item, remaining))
    (same : item.name = String.ofList name) :
    scanAttributes (' ' :: (name ++ later)) =
      item :: scanAttributes remaining := by
  have named : item.name.isEmpty = false := by
    rw [same]
    simpa using plain
  have found := dropWhile_isGap_space plain solid later
  cases name with
  | nil =>
      exact absurd rfl plain
  | cons first rest =>
      rw [List.cons_append] at found scanned ⊢
      rw [scanAttributes_of_cons found, scanned]
      simp only [named, Bool.false_eq_true, ↓reduceIte]

theorem scanAttributes_bare
    (plain : name ≠ []) (solid : ∀ c ∈ name, endsName c = false)
    (ends : ∀ c ∈ later.head?, isGap c = true)
    (unset : (later.dropWhile isBlank).head? ≠ some '=') :
    scanAttributes (' ' :: (name ++ later)) =
      ⟨String.ofList name, ""⟩ :: scanAttributes later := by
  have endsName_ : ∀ c ∈ later.head?, endsName c = true := by
    intro c member
    rw [endsName, ends c member, Bool.true_or]
  obtain ⟨taken, dropped⟩ := takeWhile_name solid endsName_
  have scanned :
      scanAttribute (name ++ later) =
        (⟨String.ofList name, ""⟩, later.dropWhile isBlank) := by
    unfold scanAttribute
    rw [taken, dropped]
    split
    · rename_i rest found
      rw [found] at unset
      exact absurd rfl unset
    · rfl
  rw [scanAttributes_of_name plain solid scanned rfl]
  exact congrArg _ (scanAttributes_congr
    (dropWhile_isGap_dropWhile_isBlank later))

theorem scanAttribute_quoted
    (solid : ∀ c ∈ name, endsName c = false) (rest : List Char) :
    scanAttribute (name ++ '=' :: '"' :: rest) =
      (⟨String.ofList name,
          String.ofList (decodeEntities (rest.takeWhile (· != '"')))⟩,
        (rest.dropWhile (· != '"')).drop 1) := by
  have equals : isBlank '=' = false := by
    decide
  have quote : isBlank '"' = false := by
    decide
  have ended : ∀ c ∈ ('=' :: '"' :: rest).head?, endsName c = true := by
    simp [endsName]
  obtain ⟨taken, dropped⟩ := takeWhile_name solid ended
  unfold scanAttribute
  rw [taken, dropped]
  simp [equals, quote, scanValue, isQuote]

variable {value : List Char}

theorem scanAttributes_quoted
    (plain : name ≠ []) (solid : ∀ c ∈ name, endsName c = false)
    (closed : '"' ∉ value) (later : List Char) :
    scanAttributes (' ' :: (name ++ '=' :: '"' :: (value ++ '"' :: later))) =
      ⟨String.ofList name, String.ofList (decodeEntities value)⟩ ::
        scanAttributes later := by
  have scanned := scanAttribute_quoted solid (value ++ '"' :: later)
  rw [takeWhile_append_cons closed, dropWhile_append_cons closed,
    List.drop_one, List.tail_cons] at scanned
  exact scanAttributes_of_name plain solid scanned rfl

/-- An attribute whose quoted value the text ends in. -/
theorem scanAttributes_unfinished
    (plain : name ≠ []) (solid : ∀ c ∈ name, endsName c = false)
    (closed : '"' ∉ value) :
    scanAttributes (' ' :: (name ++ '=' :: '"' :: value)) =
      [⟨String.ofList name, String.ofList (decodeEntities value)⟩] := by
  have keeps : ∀ c ∈ value, (c != '"') = true :=
    forall_bne_iff.mpr closed
  have scanned := scanAttribute_quoted solid value
  rw [List.takeWhile_eq_self_iff.mpr keeps,
    List.dropWhile_eq_nil_iff.mpr keeps] at scanned
  rw [scanAttributes_of_name plain solid scanned rfl]
  exact congrArg _ (scanAttributes_of_gaps rfl)

end

/-! ## All attributes -/

/-- Whether text after an attribute ends its name and gives it no value. -/
def EndsAttribute (later : List Char) : Prop :=
  (∀ c ∈ later.head?, isGap c = true) ∧
    (later.dropWhile isBlank).head? ≠ some '='

theorem render_empty {item : Attribute} (unset : item.value.isEmpty = true) :
    item.render = ' ' :: item.name.toList := by
  rw [Attribute.render, if_pos unset]

theorem render_valued {item : Attribute} (set_ : item.value.isEmpty = false) :
    item.render =
      ' ' :: (item.name.toList ++ '=' :: '"' ::
        (escapeAttribute item.value.toList ++ ['"'])) := by
  simp [Attribute.render, set_]

theorem scanAttributes_valued {item : Attribute} (plain : item.Plain)
    (set_ : item.value.isEmpty = false) (later : List Char) :
    scanAttributes (item.render ++ later) =
      item :: scanAttributes later := by
  have closed := quote_notMem_escapeAttribute item.value.toList
  have read := scanAttributes_quoted plain.name_ne_nil plain.solid closed later
  rw [decodeEntities_escape, String.ofList_toList,
    String.ofList_toList] at read
  rw [render_valued set_]
  simpa using read

/-- One attribute is read back, and what follows it is read on its own. -/
theorem scanAttributes_render {item : Attribute} (plain : item.Plain)
    {later : List Char} (ends : EndsAttribute later) :
    scanAttributes (item.render ++ later) =
      item :: scanAttributes later := by
  cases unset : item.value.isEmpty with
  | true =>
      have empty : item.value = "" := by
        simpa using unset
      rw [render_empty unset, List.cons_append,
        scanAttributes_bare plain.name_ne_nil plain.solid ends.1 ends.2,
        String.ofList_toList, ← empty]
  | false =>
      exact scanAttributes_valued plain unset later

theorem head?_flatMap_render (items : List Attribute) :
    ∀ c ∈ (items.flatMap Attribute.render).head?, isGap c = true := by
  cases items with
  | nil =>
      simp
  | cons item rest =>
      obtain ⟨later, written⟩ : ∃ later, item.render = ' ' :: later := by
        unfold Attribute.render
        split
        · exact ⟨_, rfl⟩
        · exact ⟨_, rfl⟩
      rw [List.flatMap_cons, written]
      simp [isGap, isBlank, blankCodes]

theorem Attribute.Plain.endsAttribute {item : Attribute}
    (plain : item.Plain) (later : List Char) :
    EndsAttribute (item.render ++ later) := by
  obtain ⟨tail, written⟩ :
      ∃ tail, item.render ++ later = ' ' :: (item.name.toList ++ tail) := by
    cases unset : item.value.isEmpty with
    | true =>
        exact ⟨later, by rw [render_empty unset, List.cons_append]⟩
    | false =>
        refine ⟨'=' :: '"' ::
          (escapeAttribute item.value.toList ++ '"' :: later), ?_⟩
        rw [render_valued unset]
        simp
  obtain ⟨first, rest, characters, -⟩ := plain.name_eq_cons
  have solid := plain.solid first (by rw [characters]; simp)
  simp only [endsName, isGap, Bool.or_eq_false_iff] at solid
  have space : isBlank ' ' = true := by
    decide
  rw [written, characters]
  constructor
  · intro c member
    simp only [List.head?_cons, Option.mem_some_iff] at member
    subst member
    decide
  · simp only [List.cons_append, List.dropWhile_cons, space, solid.1.1,
      ↓reduceIte, Bool.false_eq_true, List.head?_cons, ne_eq,
      Option.some.injEq]
    intro same
    subst same
    exact absurd solid.2 (by decide)

/-- Attributes that are written one after another are read in that order. -/
theorem scanAttributes_flatMap {items : List Attribute}
    (plain : ∀ item ∈ items, item.Plain) {later : List Char}
    (ends : EndsAttribute later) :
    scanAttributes (items.flatMap Attribute.render ++ later) =
      items ++ scanAttributes later := by
  induction items with
  | nil =>
      rfl
  | cons item rest inductionHypothesis =>
      have plainRest : ∀ other ∈ rest, other.Plain :=
        fun other member => plain other (List.mem_cons_of_mem _ member)
      have endsItem :
          EndsAttribute (rest.flatMap Attribute.render ++ later) := by
        cases rest with
        | nil =>
            exact ends
        | cons next others =>
            rw [List.flatMap_cons, List.append_assoc]
            exact (plainRest next (List.mem_cons_self ..)).endsAttribute _
      rw [List.flatMap_cons, List.append_assoc,
        scanAttributes_render (plain item (List.mem_cons_self ..)) endsItem,
        inductionHypothesis plainRest, List.cons_append]

end KeymapViewer.Markup
