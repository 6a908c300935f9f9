import KeymapViewer.Proofs.Markup.Scan

/-!
Forests as reading makes them. Names are read to their ends, comments and
declarations do not hold what would end them, and nothing is below a node that
cannot have children.
-/

namespace KeymapViewer.Markup

open Text

/-- Whether an element is written as a single tag. -/
def Element.isAlone (element : Element) : Bool :=
  element.selfClosing || isVoid element.tag

mutual

/-- A tree that reading can make. -/
def Tree.Tidy : Tree → Prop
  | .node .document _ => False
  | .node (.element element) children =>
    element.Plain ∧ (element.isAlone = true → children = []) ∧
      TidyAll children
  | .node (.text text) children => text ≠ "" ∧ children = []
  | .node (.comment text) children =>
    occurs ("-->".toList.isPrefixOf ·) text.toList = false ∧ children = []
  | .node (.declaration text) children =>
    '>' ∉ text.toList ∧ "--".toList.isPrefixOf text.toList = false ∧
      children = []

def TidyAll : List Tree → Prop
  | [] => True
  | tree :: rest => tree.Tidy ∧ TidyAll rest

end

theorem tidyAll_iff (forest : List Tree) :
    TidyAll forest ↔ ∀ tree ∈ forest, tree.Tidy := by
  induction forest with
  | nil =>
      simp [TidyAll]
  | cons tree rest inductionHypothesis =>
      simp [TidyAll, inductionHypothesis]

/-- A token that is read from some text. -/
def Token.Tidy : Token → Prop
  | .startTag name attributes selfClosing =>
    Element.Plain ⟨name, attributes, selfClosing⟩
  | .endTag _ => True
  | .text run => run ≠ ""
  | .comment run => occurs ("-->".toList.isPrefixOf ·) run.toList = false
  | .declaration run =>
    '>' ∉ run.toList ∧ "--".toList.isPrefixOf run.toList = false

/-! ## Tokens -/

theorem occurs_breakBefore {found : List Char → Bool}
    (grows : ∀ before after, found before = true →
      found (before ++ after) = true)
    (text : List Char) : occurs found (breakBefore found text).1 = false := by
  induction text with
  | nil =>
      rfl
  | cons c rest inductionHypothesis =>
      rw [breakBefore]
      by_cases here : found (c :: rest) = true
      · rw [if_pos here]
        rfl
      · rw [if_neg here]
        have whole := breakBefore_append found rest
        rw [occurs, Bool.or_eq_false_iff]
        refine ⟨?_, inductionHypothesis⟩
        by_contra early
        rw [Bool.not_eq_false] at early
        have later := grows _ (breakBefore found rest).2 early
        rw [List.cons_append, whole] at later
        exact here later

theorem isPrefixOf_append {part text : List Char}
    (isPrefix : part.isPrefixOf text = true) (later : List Char) :
    part.isPrefixOf (text ++ later) = true :=
  List.isPrefixOf_iff_prefix.mpr
    ((List.isPrefixOf_iff_prefix.mp isPrefix).trans
      (List.prefix_append text later))

theorem plain_of_scanAttribute {c : Char} {rest : List Char}
    (named : (scanAttribute (c :: rest)).1.name.isEmpty = false) :
    (scanAttribute (c :: rest)).1.Plain := by
  refine ⟨fun empty => ?_, fun other member => ?_⟩
  · rw [empty] at named
    cases named
  · rw [name_scanAttribute, String.toList_ofList] at member
    simpa using List.mem_takeWhile_imp member

/-- Every attribute that is read has a name that ends where it is read to. -/
theorem plain_of_scanAttributes (text : List Char) :
    ∀ item ∈ scanAttributes text, item.Plain := by
  induction size : text.length using Nat.strong_induction_on
    generalizing text with
  | _ count inductionHypothesis =>
  cases found : text.dropWhile isGap with
  | nil =>
      rw [scanAttributes_of_gaps found]
      simp
  | cons c rest =>
      have shorter := length_scanAttribute_lt_of_cons found
      have later := inductionHypothesis _ (size ▸ shorter) _ rfl
      rw [scanAttributes_of_cons found]
      cases named : (scanAttribute (c :: rest)).1.name.isEmpty with
      | true =>
          rw [if_pos rfl]
          exact later
      | false =>
          rw [if_neg Bool.false_ne_true]
          intro item member
          rcases List.mem_cons.mp member with rfl | further
          · exact plain_of_scanAttribute named
          · exact later item further

theorem cutTag_cons {first : Char} (letter : first.isAlpha = true)
    (rest : List Char) :
    ∃ inside, (cutTag none (first :: rest)).1 = first :: inside := by
  have open_ : first ≠ '>' := by
    rintro rfl
    exact absurd letter (by decide)
  exact ⟨(cutTag (if isQuote first then some first else none) rest).1,
    by rw [cutTag, if_neg open_]⟩

theorem isGap_of_isAlpha {c : Char} (letter : c.isAlpha = true) :
    isGap c = false := by
  rw [isAlpha_iff] at letter
  have apart : ∀ code ∈ blankCodes, code < 65 ∨ 122 < code := by
    decide
  have noBlank : isBlank c = false := by
    rw [isBlank, ← Bool.not_eq_true, List.contains_iff_mem]
    intro listed
    have outside := apart c.toNat listed
    omega
  have noSlash : (c == '/') = false := by
    rw [beq_eq_false_iff_ne]
    rintro rfl
    exact absurd letter (by decide)
  rw [isGap, noBlank, noSlash]
  rfl

/-- White space at the end is not all of a text that begins with a letter. -/
theorem trimEnd_cons {first : Char} (letter : first.isAlpha = true)
    (rest : List Char) : ∃ body, trimEnd (first :: rest) = first :: body := by
  have solid := isGap_of_isAlpha letter
  rw [isGap, Bool.or_eq_false_iff] at solid
  cases trimmed : trimEnd (first :: rest) with
  | nil =>
      have nothing : (first :: rest).reverse.dropWhile isBlank = [] :=
        List.reverse_eq_nil_iff.mp trimmed
      have blank := List.dropWhile_eq_nil_iff.mp nothing first (by simp)
      rw [solid.1] at blank
      cases blank
  | cons c body =>
      have isPrefix := isPrefix_trimEnd (first :: rest)
      rw [trimmed, List.cons_prefix_cons] at isPrefix
      exact ⟨body, by rw [isPrefix.1]⟩

/-- The slash of a self-closing tag is not all of it either. -/
theorem dropLast_cons {first : Char} (letter : first.isAlpha = true)
    {body : List Char} (slash : (first :: body).getLast? = some '/') :
    ∃ rest, (first :: body).dropLast = first :: rest := by
  cases body with
  | nil =>
      rw [List.getLast?_singleton, Option.some_inj] at slash
      subst slash
      exact absurd letter (by decide)
  | cons c others =>
      exact ⟨(c :: others).dropLast, List.dropLast_cons_cons⟩

/-- A start tag that begins with a letter names an element. -/
theorem plain_of_startTag {first : Char} (letter : first.isAlpha = true)
    (inside : List Char) :
    Element.Plain ⟨(startTag (first :: inside)).1,
      (startTag (first :: inside)).2.1,
      (startTag (first :: inside)).2.2⟩ := by
  obtain ⟨body, trimmed⟩ := trimEnd_cons letter inside
  obtain ⟨rest, stripped⟩ :
      ∃ rest,
        (if (trimEnd (first :: inside)).getLast? == some '/' then
          (trimEnd (first :: inside)).dropLast
        else trimEnd (first :: inside)) = first :: rest := by
    rw [trimmed]
    cases slash : (first :: body).getLast? == some '/' with
    | true =>
        rw [if_pos rfl]
        exact dropLast_cons letter (beq_iff_eq.mp slash)
    | false =>
        rw [if_neg Bool.false_ne_true]
        exact ⟨body, rfl⟩
  have solid : (!isGap first) = true := by
    rw [isGap_of_isAlpha letter]
    rfl
  refine ⟨⟨first, rest.takeWhile (!isGap ·), ?_, letter⟩,
    fun c member => ?_, fun item member => ?_⟩
  · unfold startTag
    simp only [stripped, String.toList_ofList, List.takeWhile_cons, solid,
      ↓reduceIte]
  · unfold startTag at member
    simp only [String.toList_ofList] at member
    simpa using List.mem_takeWhile_imp member
  · exact plain_of_scanAttributes _ item member

theorem tidy_of_scanStart {first : Char} (letter : first.isAlpha = true)
    (rest : List Char) :
    ∀ token ∈ (scanStart (first :: rest)).1, token.Tidy := by
  obtain ⟨inside, cut⟩ := cutTag_cons letter rest
  have plain := plain_of_startTag letter inside
  unfold scanStart
  rw [cut]
  intro token member
  simp only at member
  split at member
  · rcases List.mem_cons.mp member with rfl | content
    · exact plain
    · split at content
      · cases content
      · rename_i nonempty
        rw [List.mem_singleton] at content
        subst content
        intro empty
        exact nonempty (by simpa using empty)
  · rw [List.mem_singleton] at member
    subst member
    exact plain

theorem open_ne_empty : "<" ≠ "" := by
  decide

theorem tidy_of_scanTag (text : List Char) :
    ∀ token ∈ (scanTag text).1, token.Tidy := by
  -- What is read is a comment, a declaration, an end tag, a start tag, or a
  -- `<` that opens nothing.
  intro token member
  unfold scanTag at member
  split at member
  · rw [List.mem_singleton] at member
    subst member
    refine (congrArg (occurs _) String.toList_ofList).trans
      (occurs_breakBefore (fun before after found => ?_) _)
    exact isPrefixOf_append found after
  · rename_i rest noComment
    rw [List.mem_singleton] at member
    subst member
    change _ ∉ (String.ofList _).toList ∧
      List.isPrefixOf _ (String.ofList _).toList = false
    rw [String.toList_ofList]
    constructor
    · intro listed
      have before := List.mem_takeWhile_imp listed
      simp at before
    · by_contra found
      rw [Bool.not_eq_false, List.isPrefixOf_iff_prefix] at found
      obtain ⟨tail, whole⟩ := found.trans (List.takeWhile_prefix _)
      exact noComment tail whole.symm
  · simp only at member
    split at member
    · cases member
    · rw [List.mem_singleton] at member
      subst member
      trivial
  · split at member
    · rename_i letter
      exact tidy_of_scanStart letter _ token member
    · rw [List.mem_singleton] at member
      subst member
      exact open_ne_empty
  · rw [List.mem_singleton] at member
    subst member
    exact open_ne_empty

/-- Whatever is read is tidy. -/
theorem tidy_of_tokens (text : List Char) :
    ∀ token ∈ tokens text, token.Tidy := by
  induction size : text.length using Nat.strong_induction_on
    generalizing text with
  | _ count inductionHypothesis =>
  cases text with
  | nil =>
      simp
  | cons c rest =>
      intro token member
      by_cases opens : c = '<'
      · subst opens
        have shorter := length_scanTag_le rest
        rw [List.length_cons] at size
        rw [tokens_open] at member
        rcases List.mem_append.mp member with here | later
        · exact tidy_of_scanTag rest token here
        · exact inductionHypothesis _ (by omega) _ rfl token later
      · have shorter := length_dropWhile_le (· != '<') rest
        rw [List.length_cons] at size
        rw [tokens_run opens] at member
        rcases List.mem_cons.mp member with rfl | later
        · exact fun empty => by simp at empty
        · exact inductionHypothesis _ (by omega) _ rfl token later

/-! ## Forests -/

/-- A builder whose trees and open elements are tidy. -/
structure Builder.Tidy (builder : Builder) : Prop where
  finished : ∀ tree ∈ builder.finished, tree.Tidy
  opened : ∀ frame ∈ builder.opened, frame.element.Plain ∧
    frame.element.isAlone = false ∧ ∀ tree ∈ frame.siblings, tree.Tidy

namespace Builder

/-- The element that is closed has children, and need not be alone. -/
theorem Tidy.close {finished : List Tree} {frame : OpenElement}
    {outer : List OpenElement}
    (tidy : Tidy ⟨finished, frame :: outer⟩) :
    Tidy ⟨.node (.element frame.element) finished.reverse :: frame.siblings,
      outer⟩ := by
  obtain ⟨plain, several, siblings⟩ :=
    tidy.opened frame (List.mem_cons_self ..)
  refine ⟨fun tree member => ?_, fun other member =>
    tidy.opened other (List.mem_cons_of_mem _ member)⟩
  rcases List.mem_cons.mp member with rfl | sibling
  · refine ⟨plain, fun alone => ?_, (tidyAll_iff _).mpr fun child below =>
      tidy.finished child (List.mem_reverse.mp below)⟩
    rw [several] at alone
    cases alone
  · exact siblings tree sibling

theorem tidy_closeThrough? {name : String} {finished : List Tree}
    {opened : List OpenElement} {closed : Builder}
    (tidy : Tidy ⟨finished, opened⟩)
    (found : closeThrough? name finished opened = some closed) :
    closed.Tidy := by
  induction opened generalizing finished with
  | nil =>
      cases found
  | cons frame outer inductionHypothesis =>
      rw [closeThrough?] at found
      split at found
      · cases found
        exact tidy.close
      · exact inductionHypothesis tidy.close found

theorem tidy_closeAll {finished : List Tree} {opened : List OpenElement}
    (tidy : Tidy ⟨finished, opened⟩) :
    TidyAll (closeAll finished opened) := by
  induction opened generalizing finished with
  | nil =>
      exact (tidyAll_iff _).mpr fun tree member =>
        tidy.finished tree (List.mem_reverse.mp member)
  | cons frame outer inductionHypothesis =>
      exact inductionHypothesis tidy.close

theorem Tidy.push {builder : Builder} (tidy : builder.Tidy) {tree : Tree}
    (added : tree.Tidy) : (builder.push tree).Tidy := by
  refine ⟨fun other member => ?_, tidy.opened⟩
  rcases List.mem_cons.mp member with rfl | earlier
  · exact added
  · exact tidy.finished other earlier

theorem Tidy.add {builder : Builder} (tidy : builder.Tidy) {token : Token}
    (read : token.Tidy) : (builder.add token).Tidy := by
  cases token with
  | startTag name attributes selfClosing =>
      cases alone : selfClosing || isVoid name with
      | true =>
          rw [Builder.add, if_pos alone]
          exact tidy.push ⟨read, fun _ => rfl, trivial⟩
      | false =>
          rw [Builder.add, if_neg (by rw [alone]; exact Bool.false_ne_true)]
          refine ⟨fun tree member => absurd member List.not_mem_nil,
            fun frame member => ?_⟩
          rcases List.mem_cons.mp member with rfl | outer
          · exact ⟨read, alone, tidy.finished⟩
          · exact tidy.opened frame outer
  | endTag name =>
      cases found :
          closeThrough? name builder.finished builder.opened with
      | none =>
          rw [Builder.add, found]
          exact tidy
      | some closed =>
          rw [Builder.add, found]
          exact tidy_closeThrough? tidy found
  | text run =>
      exact tidy.push ⟨read, rfl⟩
  | comment run =>
      exact tidy.push ⟨read, rfl⟩
  | declaration run =>
      exact tidy.push ⟨read.1, read.2, rfl⟩

theorem Tidy.foldl {builder : Builder} (tidy : builder.Tidy)
    {read : List Token} (tidyRead : ∀ token ∈ read, token.Tidy) :
    (read.foldl Builder.add builder).Tidy := by
  induction read generalizing builder with
  | nil =>
      exact tidy
  | cons token rest inductionHypothesis =>
      exact inductionHypothesis
        (tidy.add (tidyRead token (List.mem_cons_self ..)))
        fun other member => tidyRead other (List.mem_cons_of_mem _ member)

end Builder

/-- The forest of every text is tidy. -/
theorem tidyAll_parse (markup : String) : TidyAll (Forest.parse markup) := by
  have empty : Builder.empty.Tidy :=
    ⟨fun tree member => absurd member List.not_mem_nil,
      fun frame member => absurd member List.not_mem_nil⟩
  exact Builder.tidy_closeAll
    (empty.foldl fun token => tidy_of_tokens markup.toList token)

end KeymapViewer.Markup
