import KeymapViewer.Proofs.Query.Component

/-!
Queries that are written and read back. A query is split at its separators
before anything is decoded, and no text that is written with its separators
escaped has one; so a variable has the text again that its value was written
for, whatever characters are escaped besides.
-/

namespace KeymapViewer.Query

open Text

/-! ## Writing components -/

inductive EscapesBytes : Bytes → List Char → Prop where
  | nil : EscapesBytes [] []
  | cons (upperHigh upperLow : Bool) (byte : UInt8) {rest : Bytes}
      {escapes : List Char} (others : EscapesBytes rest escapes) :
      EscapesBytes (byte :: rest)
        (escapeByte upperHigh upperLow byte ++ escapes)

/-- The characters that cannot stand for themselves in a component. -/
def reserved : List Char := ['%', '&', '=']

/-- A way to write a text as a component: each character as it is, or as the
escapes of its bytes. -/
inductive Encodes : List Char → List Char → Prop where
  | nil : Encodes [] []
  | literal {c : Char} {text encoded : List Char} (free : c ∉ reserved)
      (rest : Encodes text encoded) : Encodes (c :: text) (c :: encoded)
  | escaped {c : Char} {text escapes encoded : List Char}
      (written : EscapesBytes (Utf8.encodeChar c) escapes)
      (rest : Encodes text encoded) :
      Encodes (c :: text) (escapes ++ encoded)

theorem EscapesBytes.standsFor {bytes later : Bytes}
    {escapes component : List Char} (written : EscapesBytes bytes escapes)
    (rest : StandsFor component later) :
    StandsFor (escapes ++ component) (bytes ++ later) := by
  induction written with
  | nil =>
      exact rest
  | cons upperHigh upperLow byte others inductionHypothesis =>
      rw [List.append_assoc]
      exact .escape upperHigh upperLow byte inductionHypothesis

/-- What is written for a text stands for the bytes of the text. -/
theorem Encodes.standsFor {text encoded : List Char}
    (written : Encodes text encoded) :
    StandsFor encoded (Utf8.encodeChars text) := by
  induction written with
  | nil =>
      exact .nil
  | literal free rest inductionHypothesis =>
      rw [Utf8.encodeChars_cons]
      apply StandsFor.literal _ inductionHypothesis
      rintro rfl
      exact free List.mem_cons_self
  | escaped written rest inductionHypothesis =>
      rw [Utf8.encodeChars_cons]
      exact written.standsFor inductionHypothesis

theorem Encodes.decodeComponent {text encoded : List Char}
    (written : Encodes text encoded) :
    Query.decodeComponent (String.ofList encoded) =
      .ok (String.ofList text) := by
  rw [decodeComponent_eq_ok_iff, Utf8.encode, String.toList_ofList,
    String.toList_ofList]
  exact written.standsFor

/-! ## What is written has no separators -/

theorem separator_notMem_escapes {c : Char} (separator : c ∈ ['&', '='])
    {bytes : Bytes} {escapes : List Char}
    (written : EscapesBytes bytes escapes) : c ∉ escapes := by
  have noDigit : ¬ IsHexDigit c := by
    intro digit
    simp only [List.mem_cons, List.not_mem_nil, or_false] at separator
    rcases separator with rfl | rfl
    · exact absurd digit.isAlphanum (by decide)
    · exact absurd digit.isAlphanum (by decide)
  induction written with
  | nil =>
      exact List.not_mem_nil
  | cons upperHigh upperLow byte others inductionHypothesis =>
      have notPercent : c ≠ '%' := by
        rintro rfl
        exact absurd separator (by decide)
      simp only [escapeByte, List.cons_append, List.nil_append,
        List.mem_cons, not_or]
      refine ⟨notPercent, ?_, ?_, inductionHypothesis⟩
      · rintro rfl
        exact noDigit (isHexDigit_high upperHigh byte)
      · rintro rfl
        exact noDigit (isHexDigit_low upperLow byte)

theorem Encodes.separator_notMem {c : Char} (separator : c ∈ ['&', '='])
    {text encoded : List Char} (written : Encodes text encoded) :
    c ∉ encoded := by
  induction written with
  | nil =>
      exact List.not_mem_nil
  | literal free rest inductionHypothesis =>
      rw [List.mem_cons, not_or]
      exact ⟨fun same => free (same ▸ List.mem_cons_of_mem _ separator),
        inductionHypothesis⟩
  | escaped escapes rest inductionHypothesis =>
      rw [List.mem_append, not_or]
      exact ⟨separator_notMem_escapes separator escapes, inductionHypothesis⟩

theorem Encodes.ne_nil {text encoded : List Char}
    (written : Encodes text encoded) (nonempty : text ≠ []) :
    encoded ≠ [] := by
  cases written with
  | nil =>
      exact absurd rfl nonempty
  | literal free rest =>
      exact List.cons_ne_nil _ _
  | @escaped c _ _ _ escapes rest =>
      obtain ⟨first, more, bytes, -⟩ := Utf8.piece_encodeChar c []
      rw [bytes] at escapes
      cases escapes with
      | cons upperHigh upperLow byte others =>
          exact List.cons_ne_nil _ _

/-! ## Pairs -/

/-- A pair has a value after the name of a variable and an equals sign, up to
its end or up to one more equals sign. -/
def HasValue (name value pair : List Char) : Prop :=
  pair = name ++ '=' :: value ∨
    ∃ rest, pair = name ++ '=' :: (value ++ '=' :: rest)

/-- A pair gives a variable the value up to the next equals sign. -/
def GivesValue (name value pair : List Char) : Prop :=
  '=' ∉ value ∧ HasValue name value pair

theorem pairValue?_of_givesValue {name value pair : List Char}
    (noEquals : '=' ∉ name) (gives : GivesValue name value pair) :
    pairValue? name pair = some value := by
  obtain ⟨absent, rfl | ⟨rest, rfl⟩⟩ := gives
  · simp only [pairValue?, List.splitOn_append_cons_self_of_not_mem noEquals,
      List.splitOn_eq_singleton absent, beq_self_eq_true, ↓reduceIte]
  · simp only [pairValue?, List.splitOn_append_cons_self_of_not_mem noEquals,
      List.splitOn_append_cons_self_of_not_mem absent, beq_self_eq_true,
      ↓reduceIte]

theorem givesValue_of_pairValue? {name value pair : List Char}
    (found : pairValue? name pair = some value) :
    GivesValue name value pair := by
  by_cases absent : '=' ∉ pair
  · rw [pairValue?, List.splitOn_eq_singleton absent] at found
    cases found
  obtain ⟨key, after, rfl, noEquals⟩ :=
    List.eq_append_cons_of_mem (not_not.mp absent)
  rw [pairValue?, List.splitOn_append_cons_self_of_not_mem noEquals] at found
  by_cases last : '=' ∉ after
  · simp only [List.splitOn_eq_singleton last, Option.ite_none_right_eq_some,
      beq_iff_eq, Option.some.injEq] at found
    obtain ⟨rfl, rfl⟩ := found
    exact ⟨last, .inl rfl⟩
  · obtain ⟨first, rest, rfl, noEqualsFirst⟩ :=
      List.eq_append_cons_of_mem (not_not.mp last)
    simp only [List.splitOn_append_cons_self_of_not_mem noEqualsFirst,
      Option.ite_none_right_eq_some, beq_iff_eq, Option.some.injEq] at found
    obtain ⟨rfl, rfl⟩ := found
    exact ⟨noEqualsFirst, .inr ⟨rest, rfl⟩⟩

theorem GivesValue.isPrefix {name value pair : List Char}
    (gives : GivesValue name value pair) : name ++ ['='] <+: pair := by
  obtain ⟨-, rfl | ⟨rest, rfl⟩⟩ := gives
  · exact ⟨value, by simp⟩
  · exact ⟨value ++ '=' :: rest, by simp⟩

/-! ## Queries -/

/-- A query consists of some pairs with ampersands between them, after a
question mark that can be left out. -/
structure Splits (query : String) (pairs : List (List Char)) : Prop where
  nonempty : pairs ≠ []
  absent : ∀ pair ∈ pairs, '&' ∉ pair
  written : query.toList = '?' :: ['&'].intercalate pairs ∨
    query.toList = ['&'].intercalate pairs ∧ query.toList.head? ≠ some '?'

theorem Splits.pairs_eq {query : String} {pairs : List (List Char)}
    (splits : Splits query pairs) : Query.pairs query.toList = pairs := by
  have split := List.splitOn_intercalate '&' splits.absent splits.nonempty
  obtain marked | ⟨plain, unmarked⟩ := splits.written
  · rw [marked]
    exact split
  · rw [plain] at unmarked ⊢
    unfold Query.pairs
    split
    · rename_i same
      exact absurd rfl (same ▸ unmarked)
    · exact split

/-- A query names a text by a variable: of its pairs, the first one with the
name and an equals sign has the text, written in one of the ways there are. -/
structure Names (query name text : String) : Prop where
  named : ∃ earlier pair later value,
    Splits query (earlier ++ pair :: later) ∧
      (∀ other ∈ earlier, ¬ name.toList ++ ['='] <+: other) ∧
      HasValue name.toList value pair ∧ Encodes text.toList value

/-- No pair of a query gives a variable anything. -/
structure LeavesOut (query name : String) : Prop where
  empty : ∃ pairs, Splits query pairs ∧
    ∀ pair ∈ pairs, ∀ value, GivesValue name.toList value pair → value = []

/-- The text comes back when the value is looked up and decoded, and there is
a value if there is a text. -/
theorem Names.value? {query name text : String}
    (names : Names query name text) (noEquals : '=' ∉ name.toList) :
    ∃ encoded, Query.value? query name = some encoded ∧
      decodeComponent encoded = .ok text ∧
      (text ≠ "" → encoded ≠ "") := by
  obtain ⟨earlier, pair, later, value, splits, first, has, written⟩ :=
    names.named
  have gives : GivesValue name.toList value pair :=
    ⟨written.separator_notMem (by decide), has⟩
  have skipped : earlier.findSome? (pairValue? name.toList) = none := by
    refine List.findSome?_eq_none_iff.mpr fun other member => ?_
    by_contra found
    obtain ⟨otherValue, found⟩ := Option.ne_none_iff_exists'.mp found
    exact first other member (givesValue_of_pairValue? found).isPrefix
  refine ⟨String.ofList value, ?_, ?_, fun nonempty empty => ?_⟩
  · rw [Query.value?, splits.pairs_eq, List.findSome?_append, skipped,
      List.findSome?_cons, pairValue?_of_givesValue noEquals gives]
    rfl
  · rw [written.decodeComponent, String.ofList_toList]
  · have characters : text.toList ≠ [] := fun none =>
      nonempty (String.toList_eq_nil_iff.mp none)
    exact written.ne_nil characters (by simpa using empty)

theorem LeavesOut.value? {query name value : String}
    (leavesOut : LeavesOut query name)
    (found : Query.value? query name = some value) : value = "" := by
  obtain ⟨pairs, splits, empty⟩ := leavesOut.empty
  rw [Query.value?, splits.pairs_eq] at found
  obtain ⟨characters, first, rfl⟩ := Option.map_eq_some_iff.mp found
  obtain ⟨pair, member, gives⟩ := List.exists_of_findSome?_eq_some first
  rw [empty pair member characters (givesValue_of_pairValue? gives)]

end KeymapViewer.Query
