import KeymapViewer.Markup.Entity
import KeymapViewer.Proofs.Text.Cut
import Mathlib.Tactic.Common

/-!
Escaped texts. References are put in place of one character after another, the
ampersand first, so that no reference is escaped again. What is escaped, in an
attribute or between tags, is read back as it was, and nothing is left in it
that would end the attribute or the text.
-/

namespace KeymapViewer.Markup

/-! ## References -/

theorem decodeEntities_cons_of_ne {c : Char} (other : c ≠ '&')
    (text : List Char) :
    decodeEntities (c :: text) = c :: decodeEntities text := by
  rw [decodeEntities]
  exact other

theorem decodeEntities_reference {text rest : List Char} {c : Char}
    (found : reference? text = some (c, rest)) :
    decodeEntities ('&' :: text) = c :: decodeEntities rest := by
  rw [decodeEntities]
  split
  · rename_i other remaining known
    rw [found] at known
    cases known
    rfl
  · rename_i missing
    rw [found] at missing
    cases missing

/-- A reference is read up to its semicolon, whatever comes after it. -/
theorem reference?_append {entity : List Char} {c : Char}
    (closed : ';' ∉ entity) (short : entity.length ≤ entityLimit)
    (known : entity? entity = some c) (rest : List Char) :
    reference? (entity ++ ';' :: rest) = some (c, rest) := by
  have inside :
      (entity ++ ';' :: rest).takeWhile (· != ';') = entity :=
    Text.takeWhile_append_cons closed rest
  unfold reference?
  simp only [inside, known]
  simp [short]

theorem entity?_of_mem_namedCharacters :
    ∀ entry ∈ namedCharacters,
      ';' ∉ entry.1.toList ∧ entry.1.toList.length ≤ entityLimit ∧
        entity? entry.1.toList = some entry.2 := by
  decide +kernel

/-- Every name of a character is read as that character. -/
theorem decodeEntities_named {name : String} {c : Char}
    (named : (name, c) ∈ namedCharacters) (rest : List Char) :
    decodeEntities ('&' :: (name.toList ++ ';' :: rest)) =
      c :: decodeEntities rest := by
  obtain ⟨closed, short, known⟩ :=
    entity?_of_mem_namedCharacters (name, c) named
  exact decodeEntities_reference (reference?_append closed short known rest)

/-- Resolving references undoes whatever writes each character in a way that
is read back as that character. -/
theorem decodeEntities_flatMap {escape : Char → List Char}
    (undone : ∀ c rest,
      decodeEntities (escape c ++ rest) = c :: decodeEntities rest)
    (text : List Char) : decodeEntities (text.flatMap escape) = text := by
  induction text with
  | nil =>
      rw [List.flatMap_nil, decodeEntities]
  | cons c rest inductionHypothesis =>
      rw [List.flatMap_cons, undone, inductionHypothesis]

/-! ## References in place of characters -/

/-- Puts another text in place of a character wherever it stands. -/
def substitute (c : Char) (written text : List Char) : List Char :=
  text.flatMap fun d => if d = c then written else [d]

/-- The reference to a character by its name. -/
def reference (name : String) : List Char :=
  '&' :: (name.toList ++ [';'])

/-- Puts references in place of characters, those of one entry after those of
another, each time in the whole text. -/
def escapeBy (table : List (String × Char)) (text : List Char) : List Char :=
  table.foldl
    (fun written entry => substitute entry.2 (reference entry.1) written) text

theorem substitute_of_notMem {c : Char} {text : List Char}
    (absent : c ∉ text) (written : List Char) :
    substitute c written text = text := by
  induction text with
  | nil =>
      rfl
  | cons d rest inductionHypothesis =>
      rw [List.mem_cons, not_or] at absent
      have kept := inductionHypothesis absent.2
      unfold substitute at kept ⊢
      rw [List.flatMap_cons, kept, if_neg (Ne.symm absent.1)]
      rfl

section Table

variable {table : List (String × Char)}

theorem escapeBy_cons (entry : String × Char) (text : List Char) :
    escapeBy (entry :: table) text =
      escapeBy table (substitute entry.2 (reference entry.1) text) :=
  List.foldl_cons ..

theorem escapeBy_of_notMem {text : List Char}
    (absent : ∀ entry ∈ table, entry.2 ∉ text) :
    escapeBy table text = text := by
  induction table with
  | nil =>
      rfl
  | cons entry rest inductionHypothesis =>
      rw [List.forall_mem_cons] at absent
      rw [escapeBy_cons, substitute_of_notMem absent.1]
      exact inductionHypothesis absent.2

theorem escapeBy_singleton_of_ne {c : Char}
    (others : ∀ entry ∈ table, entry.2 ≠ c) : escapeBy table [c] = [c] := by
  apply escapeBy_of_notMem
  intro entry listed
  rw [List.mem_singleton]
  exact others entry listed

theorem escapeBy_append (first second : List Char) :
    escapeBy table (first ++ second) =
      escapeBy table first ++ escapeBy table second := by
  induction table generalizing first second with
  | nil =>
      rfl
  | cons entry rest inductionHypothesis =>
      rw [escapeBy_cons, escapeBy_cons, escapeBy_cons, ← inductionHypothesis]
      unfold substitute
      rw [List.flatMap_append]

/-- The replacements come to one for each character. -/
theorem escapeBy_eq_flatMap (text : List Char) :
    escapeBy table text = text.flatMap fun c => escapeBy table [c] := by
  induction text with
  | nil =>
      exact escapeBy_of_notMem fun _ _ => List.not_mem_nil
  | cons c rest inductionHypothesis =>
      rw [List.flatMap_cons, ← inductionHypothesis, ← escapeBy_append]
      rfl

/-- A table to escape by. Its names are read as its characters, and no character
is replaced in a reference that has been put in before; so the ampersand comes
first. -/
structure IsEscapeTable (table : List (String × Char)) : Prop where
  named : ∀ entry ∈ table, entry ∈ namedCharacters
  ampersand : ("amp", '&') ∈ table
  ordered : table.Pairwise fun earlier later =>
    later.2 ∉ reference earlier.1

theorem escapeBy_singleton
    (ordered : table.Pairwise fun earlier later =>
      later.2 ∉ reference earlier.1) (c : Char) :
    (∃ name, (name, c) ∈ table ∧ escapeBy table [c] = reference name) ∨
      (∀ entry ∈ table, entry.2 ≠ c) ∧ escapeBy table [c] = [c] := by
  induction table with
  | nil =>
      exact .inr ⟨List.forall_mem_nil _, rfl⟩
  | cons entry rest inductionHypothesis =>
      obtain ⟨kept, later⟩ := List.pairwise_cons.mp ordered
      rw [escapeBy_cons]
      by_cases same : c = entry.2
      · left
        subst same
        have replaced : substitute entry.2 (reference entry.1) [entry.2] =
            reference entry.1 := by
          simp [substitute]
        refine ⟨entry.1, List.mem_cons_self, ?_⟩
        rw [replaced]
        exact escapeBy_of_notMem kept
      · have absent : entry.2 ∉ [c] := by
          rw [List.mem_singleton]
          exact Ne.symm same
        rw [substitute_of_notMem absent]
        rcases inductionHypothesis later with
          ⟨name, member, written⟩ | ⟨others, written⟩
        · exact .inl ⟨name, List.mem_cons_of_mem entry member, written⟩
        · exact .inr ⟨List.forall_mem_cons.mpr ⟨Ne.symm same, others⟩, written⟩

/-- What is escaped is read back as it was. -/
theorem IsEscapeTable.decodeEntities_escapeBy (escapes : IsEscapeTable table)
    (text : List Char) : decodeEntities (escapeBy table text) = text := by
  rw [escapeBy_eq_flatMap]
  apply decodeEntities_flatMap
  intro c rest
  rcases escapeBy_singleton escapes.ordered c with
    ⟨name, member, written⟩ | ⟨others, written⟩
  · rw [written, reference, List.cons_append, List.append_assoc]
    exact decodeEntities_named (escapes.named _ member) rest
  · rw [written]
    exact decodeEntities_cons_of_ne (others _ escapes.ampersand).symm rest

/-- A character of the table is left only in references that have it. -/
theorem IsEscapeTable.notMem_escapeBy (escapes : IsEscapeTable table)
    {entry : String × Char} (listed : entry ∈ table)
    (absent : ∀ other ∈ table, entry.2 ∉ reference other.1)
    (text : List Char) : entry.2 ∉ escapeBy table text := by
  rw [escapeBy_eq_flatMap, List.mem_flatMap]
  rintro ⟨c, -, member⟩
  rcases escapeBy_singleton escapes.ordered c with
    ⟨name, named, written⟩ | ⟨others, written⟩
  · rw [written] at member
    exact absent _ named member
  · rw [written, List.mem_singleton] at member
    exact others entry listed member

end Table

/-! ## Values of attributes -/

def attributeTable : List (String × Char) :=
  [("amp", '&'), ("quot", '"')]

theorem isEscapeTable_attributeTable : IsEscapeTable attributeTable := by
  constructor
  · decide
  · decide
  · decide

theorem escapeAttribute_eq (value : List Char) :
    escapeAttribute value = escapeBy attributeTable value := by
  rw [escapeBy_eq_flatMap]
  unfold escapeAttribute
  congr 1
  funext c
  split
  · decide
  · decide
  · next noAmp noQuote =>
      symm
      apply escapeBy_singleton_of_ne
      simpa [attributeTable, eq_comm] using ⟨noAmp, noQuote⟩

theorem escapeAttribute_cons (c : Char) (value : List Char) :
    escapeAttribute (c :: value) =
      escapeAttribute [c] ++ escapeAttribute value := by
  unfold escapeAttribute
  rw [List.flatMap_cons, List.flatMap_cons, List.flatMap_nil,
    List.append_nil]

theorem escapeAttribute_singleton {c : Char} (noAmp : c ≠ '&')
    (noQuote : c ≠ '"') : escapeAttribute [c] = [c] := by
  unfold escapeAttribute
  rw [List.flatMap_cons, List.flatMap_nil, List.append_nil]
  split
  · exact absurd rfl noAmp
  · exact absurd rfl noQuote
  · rfl

theorem decodeEntities_escape (value : List Char) :
    decodeEntities (escapeAttribute value) = value := by
  rw [escapeAttribute_eq]
  exact isEscapeTable_attributeTable.decodeEntities_escapeBy value

theorem quote_notMem_escapeAttribute (value : List Char) :
    '"' ∉ escapeAttribute value := by
  rw [escapeAttribute_eq]
  exact isEscapeTable_attributeTable.notMem_escapeBy
    (show ("quot", '"') ∈ attributeTable by decide) (by decide) value

/-! ## Texts -/

def textTable : List (String × Char) :=
  [("amp", '&'), ("lt", '<'), ("gt", '>')]

theorem isEscapeTable_textTable : IsEscapeTable textTable := by
  constructor
  · decide
  · decide
  · decide

theorem escapeText_eq (text : List Char) :
    escapeText text = escapeBy textTable text := by
  rw [escapeBy_eq_flatMap]
  unfold escapeText
  congr 1
  funext c
  split
  · decide
  · decide
  · decide
  · next noAmp noOpen noClose =>
      symm
      apply escapeBy_singleton_of_ne
      simpa [textTable, eq_comm] using ⟨noAmp, noOpen, noClose⟩

theorem decodeEntities_escapeText (text : List Char) :
    decodeEntities (escapeText text) = text := by
  rw [escapeText_eq]
  exact isEscapeTable_textTable.decodeEntities_escapeBy text

/-- No tag begins in a text that is escaped. -/
theorem open_notMem_escapeText (text : List Char) :
    '<' ∉ escapeText text := by
  rw [escapeText_eq]
  exact isEscapeTable_textTable.notMem_escapeBy
    (show ("lt", '<') ∈ textTable by decide) (by decide) text

/-- Neither does one end in it. -/
theorem close_notMem_escapeText (text : List Char) :
    '>' ∉ escapeText text := by
  rw [escapeText_eq]
  exact isEscapeTable_textTable.notMem_escapeBy
    (show ("gt", '>') ∈ textTable by decide) (by decide) text

/-! ## Both ways of escaping -/

/-- A way of escaping puts in the references of a table, is undone when the
references are resolved once, and leaves none of some characters. -/
structure Protects (escape : List Char → List Char)
    (table : List (String × Char)) (guarded : List Char) : Prop where
  replaced : ∀ text, escape text = escapeBy table text
  undone : ∀ text, decodeEntities (escape text) = text
  clean : ∀ text, ∀ c ∈ guarded, c ∉ escape text

/-- Values of attributes and texts come back as they were, whatever references
they hold already, and what ends them is not in what is written. -/
theorem escapes_protect :
    Protects escapeAttribute attributeTable ['"'] ∧
      Protects escapeText textTable ['<', '>'] := by
  constructor
  · refine ⟨escapeAttribute_eq, decodeEntities_escape, fun value c member => ?_⟩
    obtain rfl := List.mem_singleton.mp member
    exact quote_notMem_escapeAttribute value
  · refine ⟨escapeText_eq, decodeEntities_escapeText, fun text c member => ?_⟩
    simp only [List.mem_cons, List.not_mem_nil, or_false] at member
    rcases member with rfl | rfl
    · exact open_notMem_escapeText text
    · exact close_notMem_escapeText text

end KeymapViewer.Markup
