import KeymapViewer.Proofs.Markup.Attribute

/-!
Start tags that are written and read again. The inside of a tag names its
element, and it is cut at the right place when every quote in it is closed.
-/

namespace KeymapViewer.Markup

open Text

/-! ## The ends of texts -/

/-- The last character is neither white space nor a slash. -/
def EndsSolid (text : List Char) : Prop :=
  ∃ before last, text = before ++ [last] ∧ isGap last = false

theorem EndsSolid.append {text : List Char} (ends : EndsSolid text)
    (before : List Char) : EndsSolid (before ++ text) := by
  obtain ⟨earlier, last, rfl, solid⟩ := ends
  exact ⟨before ++ earlier, last, (List.append_assoc ..).symm, solid⟩

theorem endsSolid_of_forall {text : List Char} (nonempty : text ≠ [])
    (solid : ∀ c ∈ text, isGap c = false) : EndsSolid text := by
  obtain ⟨before, last, split⟩ :=
    (List.eq_nil_or_concat text).resolve_left nonempty
  rw [List.concat_eq_append] at split
  exact ⟨before, last, split, solid last (by simp [split])⟩

theorem trimEnd_concat {last : Char} (solid : isBlank last = false)
    (before : List Char) : trimEnd (before ++ [last]) = before ++ [last] := by
  unfold trimEnd
  rw [List.reverse_append, List.reverse_singleton, List.singleton_append,
    List.dropWhile_cons_of_neg (by rw [solid]; exact Bool.false_ne_true),
    List.reverse_cons, List.reverse_reverse]

theorem EndsSolid.trimEnd {text : List Char} (ends : EndsSolid text) :
    trimEnd text = text := by
  obtain ⟨before, last, rfl, solid⟩ := ends
  rw [isGap, Bool.or_eq_false_iff] at solid
  exact trimEnd_concat solid.1 before

theorem EndsSolid.getLast? {text : List Char} (ends : EndsSolid text) :
    (text.getLast? == some '/') = false := by
  obtain ⟨before, last, rfl, solid⟩ := ends
  rw [isGap, Bool.or_eq_false_iff] at solid
  rw [List.getLast?_concat]
  exact beq_eq_false_iff_ne.mpr fun same => by
    cases same
    exact absurd solid.2 (by decide)

theorem Attribute.Plain.endsSolid {item : Attribute} (plain : item.Plain) :
    EndsSolid item.render := by
  cases unset : item.value.isEmpty with
  | true =>
      rw [render_empty unset]
      refine EndsSolid.append (endsSolid_of_forall ?_ fun c member => ?_) [' ']
      · exact plain.name_ne_nil
      · have solid := plain.solid c member
        rw [endsName, Bool.or_eq_false_iff] at solid
        exact solid.1
  | false =>
      rw [render_valued unset]
      exact ⟨' ' :: (item.name.toList ++ '=' :: '"' ::
        escapeAttribute item.value.toList), '"', by simp, by decide⟩

/-! ## The inside of a start tag -/

/-- An element whose names are read to their ends. -/
structure Element.Plain (element : Element) : Prop where
  letter : ∃ first rest,
    element.tag.toList = first :: rest ∧ first.isAlpha = true
  solid : ∀ c ∈ element.tag.toList, isGap c = false
  attributes : ∀ item ∈ element.attributes, item.Plain

/-- What is written between the brackets of a start tag. -/
def Element.inside (element : Element) : List Char :=
  element.renderHead ++ if element.selfClosing then ['/'] else []

namespace Element.Plain

variable {element : Element}

theorem tag_ne_nil (plain : element.Plain) : element.tag.toList ≠ [] := by
  obtain ⟨first, rest, characters, -⟩ := plain.letter
  rw [characters]
  exact List.cons_ne_nil first rest

theorem endsSolid (plain : element.Plain) : EndsSolid element.renderHead := by
  unfold Element.renderHead
  rcases List.eq_nil_or_concat element.attributes with
    none_ | ⟨before, last, split⟩
  · rw [none_, List.flatMap_nil, List.append_nil]
    exact endsSolid_of_forall plain.tag_ne_nil plain.solid
  · rw [List.concat_eq_append] at split
    have plainLast := plain.attributes last (by simp [split])
    rw [split, List.flatMap_append, ← List.append_assoc,
      List.flatMap_singleton]
    exact plainLast.endsSolid.append _

/-- The tag of an element is the text up to its attributes. -/
theorem takeWhile_renderHead (plain : element.Plain) :
    element.renderHead.takeWhile (!isGap ·) = element.tag.toList ∧
      element.renderHead.dropWhile (!isGap ·) =
        element.attributes.flatMap Attribute.render :=
  takeWhile_name plain.solid (head?_flatMap_render element.attributes)

/-- The inside of a start tag is read as the element it was written for. -/
theorem startTag_inside (plain : element.Plain) :
    startTag element.inside =
      (element.tag, element.attributes, element.selfClosing) := by
  have ends := plain.endsSolid
  obtain ⟨taken, dropped⟩ := plain.takeWhile_renderHead
  have none_ : EndsAttribute [] := by
    exact ⟨by simp, by simp⟩
  have scanned := scanAttributes_flatMap plain.attributes none_
  rw [List.append_nil, scanAttributes_of_gaps List.dropWhile_nil,
    List.append_nil] at scanned
  unfold startTag Element.inside
  cases element.selfClosing with
  | false =>
      simp only [Bool.false_eq_true, ↓reduceIte, List.append_nil,
        ends.trimEnd, ends.getLast?, taken, dropped, scanned,
        String.ofList_toList]
  | true =>
      have slash : isBlank '/' = false := by
        decide
      simp only [↓reduceIte, trimEnd_concat slash, List.getLast?_concat,
        beq_self_eq_true, List.dropLast_concat, taken, dropped, scanned,
        String.ofList_toList]

end Element.Plain

/-! ## Quotes -/

/-- The quote that is open after a text, if there is no `>` outside quotes
in it. -/
def quoteAfter? (quote : Option Char) : List Char → Option (Option Char)
  | [] => some quote
  | c :: rest =>
    match quote with
    | some q => quoteAfter? (if c = q then none else quote) rest
    | none =>
      if c = '>' then none
      else quoteAfter? (if isQuote c then some c else none) rest

theorem quoteAfter?_append
    (quote : Option Char) (first second : List Char) :
    quoteAfter? quote (first ++ second) =
      (quoteAfter? quote first).bind (quoteAfter? · second) := by
  induction first generalizing quote with
  | nil =>
      rfl
  | cons c rest inductionHypothesis =>
      rw [List.cons_append]
      cases quote with
      | some q =>
          exact inductionHypothesis _
      | none =>
          by_cases closes : c = '>'
          · simp [quoteAfter?, closes]
          · simp only [quoteAfter?, closes, ↓reduceIte]
            exact inductionHypothesis _

/-- A tag ends at the first `>` behind closed quotes. -/
theorem cutTag_append {quote : Option Char} {inside : List Char}
    (closed : quoteAfter? quote inside = some none) (after : List Char) :
    cutTag quote (inside ++ '>' :: after) = (inside, after) := by
  induction inside generalizing quote with
  | nil =>
      cases closed
      rfl
  | cons c rest inductionHypothesis =>
      cases quote with
      | some q =>
          rw [List.cons_append, cutTag, inductionHypothesis closed]
      | none =>
          by_cases closes : c = '>'
          · simp [quoteAfter?, closes] at closed
          · simp only [quoteAfter?, closes, ↓reduceIte] at closed
            rw [List.cons_append, cutTag, if_neg closes,
              inductionHypothesis closed]

theorem quoteAfter?_unquoted {text : List Char}
    (plain : ∀ c ∈ text, isQuote c = false ∧ c ≠ '>') :
    quoteAfter? none text = some none := by
  induction text with
  | nil =>
      rfl
  | cons c rest inductionHypothesis =>
      obtain ⟨noQuote, open_⟩ := plain c (List.mem_cons_self ..)
      rw [quoteAfter?, if_neg open_, noQuote]
      exact inductionHypothesis
        fun other member => plain other (List.mem_cons_of_mem _ member)

theorem quoteAfter?_quoted {text : List Char} (closed : '"' ∉ text) :
    quoteAfter? (some '"') text = some (some '"') := by
  induction text with
  | nil =>
      rfl
  | cons c rest inductionHypothesis =>
      rw [List.mem_cons, not_or] at closed
      rw [quoteAfter?, if_neg (Ne.symm closed.1)]
      exact inductionHypothesis closed.2

/-- Whether the quotes in the start tag of an element are closed where the
tag ends. -/
def Element.isSealed (element : Element) : Bool :=
  quoteAfter? none element.renderHead == some none

theorem Element.quoteAfter?_inside {element : Element}
    (closed : element.isSealed = true) :
    quoteAfter? none element.inside = some none := by
  have head : quoteAfter? none element.renderHead = some none :=
    beq_iff_eq.mp closed
  unfold Element.inside
  rw [quoteAfter?_append, head]
  cases element.selfClosing with
  | false =>
      rfl
  | true =>
      rfl

theorem quoteAfter?_render {item : Attribute}
    (plain : ∀ c ∈ item.name.toList, isQuote c = false ∧ c ≠ '>') :
    quoteAfter? none item.render = some none := by
  have space : quoteAfter? none [' '] = some none := by
    decide
  have equals : quoteAfter? none ['=', '"'] = some (some '"') := by
    decide
  have quote : quoteAfter? (some '"') ['"'] = some none := by
    decide
  have escaped := quoteAfter?_quoted
    (quote_notMem_escapeAttribute item.value.toList)
  cases unset : item.value.isEmpty with
  | true =>
      rw [render_empty unset, ← List.singleton_append, quoteAfter?_append,
        space]
      exact quoteAfter?_unquoted plain
  | false =>
      have written :
          item.render =
            [' '] ++ (item.name.toList ++ (['=', '"'] ++
              (escapeAttribute item.value.toList ++ ['"']))) := by
        rw [render_valued unset]
        simp
      simp only [written, quoteAfter?_append, space, Option.bind_some,
        quoteAfter?_unquoted plain, equals, escaped, quote]

/-- Without quotes and `>` in its names, a start tag is sealed. -/
theorem Element.isSealed_of_plain {element : Element}
    (tag : ∀ c ∈ element.tag.toList, isQuote c = false ∧ c ≠ '>')
    (names : ∀ item ∈ element.attributes, ∀ c ∈ item.name.toList,
      isQuote c = false ∧ c ≠ '>') :
    element.isSealed = true := by
  have all :
      quoteAfter? none (element.attributes.flatMap Attribute.render) =
        some none := by
    generalize element.attributes = items at names
    induction items with
    | nil =>
        rfl
    | cons item rest inductionHypothesis =>
        rw [List.flatMap_cons, quoteAfter?_append,
          quoteAfter?_render (names item (List.mem_cons_self ..))]
        exact inductionHypothesis fun other member =>
          names other (List.mem_cons_of_mem _ member)
  unfold Element.isSealed Element.renderHead
  rw [quoteAfter?_append, quoteAfter?_unquoted tag]
  exact beq_iff_eq.mpr all

end KeymapViewer.Markup
