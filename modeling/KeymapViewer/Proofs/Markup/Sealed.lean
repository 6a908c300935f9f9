import KeymapViewer.Proofs.Markup.Tidy

/-!
Start tags that are not sealed. Their inside is cut short at a `>` that was
meant to be part of a name or of a value, or it goes on behind the tag; either
way another tag is read.
-/

namespace KeymapViewer.Markup

open Text

/-! ## Where the inside ends -/

/-- Whether a character can stand behind the last one that is read of a tag. -/
def cutsTag (c : Char) : Bool := isGap c || c == '>'

/-- The inside of a start tag is read without some of the gaps at its end. -/
theorem startTag_eq (inside : List Char) :
    ∃ body gaps, inside = body ++ gaps ∧ (∀ c ∈ gaps, isGap c = true) ∧
      (startTag inside).1 = String.ofList (body.takeWhile (!isGap ·)) ∧
      (startTag inside).2.1 =
        scanAttributes (body.dropWhile (!isGap ·)) := by
  obtain ⟨blanks, trimmed⟩ := isPrefix_trimEnd inside
  have areGaps : ∀ c ∈ blanks, isGap c = true := by
    intro c member
    have split := List.takeWhile_append_dropWhile (p := isBlank)
      (l := inside.reverse)
    have reversed := congrArg List.reverse split
    rw [List.reverse_append, List.reverse_reverse] at reversed
    have same : blanks = (inside.reverse.takeWhile isBlank).reverse :=
      List.append_cancel_left (trimmed.trans reversed.symm)
    rw [same, List.mem_reverse] at member
    rw [isGap, List.mem_takeWhile_imp member, Bool.true_or]
  unfold startTag
  -- A slash at the end is a gap as well, and counts as one here.
  cases slash : (trimEnd inside).getLast? == some '/' with
  | false =>
      refine ⟨trimEnd inside, blanks, trimmed.symm, areGaps, ?_⟩
      simp only [slash, Bool.false_eq_true, ↓reduceIte, and_self]
  | true =>
      obtain ⟨body, stripped⟩ :=
        List.getLast?_eq_some_iff.mp (beq_iff_eq.mp slash)
      refine ⟨body, '/' :: blanks, ?_, fun c member => ?_, ?_⟩
      · rw [List.append_cons, ← stripped, trimmed]
      · rcases List.mem_cons.mp member with rfl | blank
        · decide
        · exact areGaps c blank
      · simp only [stripped, List.getLast?_concat, beq_self_eq_true,
          ↓reduceIte, List.dropLast_concat, and_self]

/-- Without a `>` outside quotes the inside goes on behind a text. -/
theorem cutTag_append_of_open {quote after? : Option Char}
    {text : List Char} (open_ : quoteAfter? quote text = some after?)
    (later : List Char) :
    cutTag quote (text ++ later) =
      (text ++ (cutTag after? later).1, (cutTag after? later).2) := by
  induction text generalizing quote with
  | nil =>
      cases open_
      rfl
  | cons c rest inductionHypothesis =>
      cases quote with
      | some q =>
          rw [List.cons_append, cutTag, inductionHypothesis open_]
          rfl
      | none =>
          by_cases closes : c = '>'
          · simp [quoteAfter?, closes] at open_
          · simp only [quoteAfter?, closes, ↓reduceIte] at open_
            rw [List.cons_append, cutTag, if_neg closes,
              inductionHypothesis open_]
            rfl

theorem quoteAfter?_eq_none {quote : Option Char} {text : List Char}
    (closes : quoteAfter? quote text = none) :
    ∃ before after, text = before ++ '>' :: after ∧
      quoteAfter? quote before = some none := by
  induction text generalizing quote with
  | nil =>
      cases closes
  | cons c rest inductionHypothesis =>
      cases quote with
      | some q =>
          obtain ⟨before, after, rfl, open_⟩ := inductionHypothesis closes
          exact ⟨c :: before, after, rfl, open_⟩
      | none =>
          by_cases here : c = '>'
          · exact ⟨[], rest, by rw [here]; rfl, rfl⟩
          · simp only [quoteAfter?, here, ↓reduceIte] at closes
            obtain ⟨before, after, rfl, open_⟩ := inductionHypothesis closes
            exact ⟨c :: before, after, rfl,
              by simp only [quoteAfter?, here, ↓reduceIte, open_]⟩

theorem isQuote_of_quoteAfter? {quote : Option Char} {text : List Char}
    {q : Char} (known : ∀ c ∈ quote, isQuote c = true)
    (open_ : quoteAfter? quote text = some (some q)) : isQuote q = true := by
  induction text generalizing quote with
  | nil =>
      injection open_ with same
      exact known q same
  | cons c rest inductionHypothesis =>
      cases quote with
      | some opened =>
          refine inductionHypothesis (fun d member => ?_) open_
          split at member
          · cases member
          · exact known d member
      | none =>
          by_cases closes : c = '>'
          · simp [quoteAfter?, closes] at open_
          · simp only [quoteAfter?, closes, ↓reduceIte] at open_
            refine inductionHypothesis (fun d member => ?_) open_
            split at member
            · injection member with same
              rwa [← same]
            · cases member

/-! ## Insides that are cut short -/

theorem escapeAttribute_of_cutsTag {c : Char} (cuts : cutsTag c = true) :
    escapeAttribute [c] = [c] := by
  refine escapeAttribute_singleton ?_ ?_
  · rintro rfl
    exact absurd cuts (by decide)
  · rintro rfl
    exact absurd cuts (by decide)

theorem any_cutsTag_escapeAttribute {c : Char} (keeps : cutsTag c = false) :
    (escapeAttribute [c]).any cutsTag = false := by
  by_cases amp : c = '&'
  · subst amp
    decide
  by_cases quote : c = '"'
  · subst quote
    decide
  · rw [escapeAttribute_singleton amp quote, List.any_cons, keeps]
    rfl

theorem notMem_of_cutsTag {c : Char} (cuts : cutsTag c = true)
    {text : List Char} (keeps : text.any cutsTag = false) : c ∉ text := by
  intro member
  exact absurd cuts (List.any_eq_false.mp keeps c member)

/-- A text of two parts is cut in the first or in the second. -/
theorem append_eq_append_cons {first second body later : List Char}
    {c : Char} (split : first ++ second = body ++ c :: later) :
    (∃ others, first = body ++ c :: others) ∨
      ∃ further, body = first ++ further ∧ second = further ++ c :: later := by
  rcases List.append_eq_append_iff.mp split with
    ⟨further, whole, rest⟩ | ⟨further, whole, rest⟩
  · exact .inr ⟨further, whole, rest⟩
  · cases further with
    | nil =>
        rw [List.append_nil] at whole
        exact .inr ⟨[], by rw [whole, List.append_nil], rest.symm⟩
    | cons d others =>
        injection rest with same _
        exact .inl ⟨others, by rw [whole, same]⟩

theorem append_eq_append_cons_of_notMem
    {first second body later : List Char} {c : Char} (absent : c ∉ first)
    (split : first ++ second = body ++ c :: later) :
    ∃ further, body = first ++ further ∧ second = further ++ c :: later :=
  (append_eq_append_cons split).resolve_left fun ⟨others, whole⟩ =>
    absent (by rw [whole]; simp)

/-- No escape is cut in its middle. -/
theorem escapeAttribute_eq_append {value body later : List Char} {c : Char}
    (cuts : cutsTag c = true)
    (split : escapeAttribute value = body ++ c :: later) :
    ∃ before after, value = before ++ c :: after ∧
      body = escapeAttribute before := by
  induction value generalizing body with
  | nil =>
      rw [escapeAttribute, List.flatMap_nil] at split
      simp at split
  | cons d rest inductionHypothesis =>
      rw [escapeAttribute_cons] at split
      -- Only what stands for itself can cut: no reference has a gap or a `>`.
      cases kind : cutsTag d with
      | true =>
          rw [escapeAttribute_of_cutsTag kind] at split
          cases body with
          | nil =>
              injection split with same _
              exact ⟨[], rest, by rw [same]; rfl, rfl⟩
          | cons x others =>
              injection split with same split
              obtain ⟨before, after, rfl, rfl⟩ := inductionHypothesis split
              refine ⟨d :: before, after, rfl, ?_⟩
              rw [escapeAttribute_cons, escapeAttribute_of_cutsTag kind, same]
              rfl
      | false =>
          have absent := notMem_of_cutsTag cuts
            (any_cutsTag_escapeAttribute kind)
          obtain ⟨further, rfl, within⟩ :=
            append_eq_append_cons_of_notMem absent split
          obtain ⟨before, after, rfl, rfl⟩ := inductionHypothesis within
          exact ⟨d :: before, after, rfl, (escapeAttribute_cons d before).symm⟩

/-- A value that is cut short is read as less than it is. -/
theorem decodeEntities_ne_of_cut {value body later : List Char} {c : Char}
    (cuts : cutsTag c = true)
    (split : escapeAttribute value = body ++ c :: later) :
    decodeEntities body ≠ value := by
  obtain ⟨before, after, rfl, rfl⟩ := escapeAttribute_eq_append cuts split
  rw [decodeEntities_escape]
  intro same
  have lengths := congrArg List.length same
  rw [List.length_append, List.length_cons] at lengths
  omega

theorem ofList_ne_of_cut {name : String} {body later : List Char} {c : Char}
    (split : name.toList = body ++ c :: later) : String.ofList body ≠ name := by
  rintro rfl
  rw [String.toList_ofList] at split
  have lengths := congrArg List.length split
  rw [List.length_append, List.length_cons] at lengths
  omega

theorem EndsAttribute.of_append {first second : List Char}
    (ends : EndsAttribute (first ++ second)) : EndsAttribute first := by
  cases first with
  | nil =>
      exact ⟨by simp, by simp⟩
  | cons c rest =>
      refine ⟨ends.1, fun equals => ends.2 ?_⟩
      rw [List.dropWhile_append]
      split
      · rename_i nothing
        rw [List.isEmpty_iff.mp nothing] at equals
        cases equals
      · rw [List.head?_append, equals]
        rfl

/-- A name that is cut short is another name. -/
theorem scanAttributes_ne_of_cut_name {item : Attribute}
    (plain : item.Plain) {body later : List Char} {c : Char}
    (split : item.name.toList = body ++ c :: later)
    (rest : List Attribute) :
    scanAttributes (' ' :: body) ≠ item :: rest := by
  have solid : ∀ d ∈ body, endsName d = false := by
    intro d member
    exact plain.solid d (by rw [split]; simp [member])
  cases body with
  | nil =>
      rw [scanAttributes_of_gaps (by decide)]
      simp
  | cons first others =>
      have read :
          scanAttributes (' ' :: ((first :: others) ++ [])) =
            ⟨String.ofList (first :: others), ""⟩ :: scanAttributes [] :=
        scanAttributes_bare (List.cons_ne_nil first others) solid
          (by simp) (by simp)
      rw [List.append_nil] at read
      rw [read]
      intro same
      injection same with same _
      exact ofList_ne_of_cut split (congrArg Attribute.name same)

/-- An attribute that is cut short is read as another one or not at all. -/
theorem scanAttributes_ne_of_cut_item {item : Attribute}
    (plain : item.Plain) {body later : List Char} {c : Char}
    (cuts : cutsTag c = true) (split : item.render = body ++ c :: later)
    (rest : List Attribute) : scanAttributes body ≠ item :: rest := by
  cases body with
  | nil =>
      rw [scanAttributes_of_gaps rfl]
      simp
  | cons space body =>
      cases unset : item.value.isEmpty with
      | true =>
          rw [render_empty unset, List.cons_append] at split
          injection split with same split
          subst same
          exact scanAttributes_ne_of_cut_name plain split rest
      | false =>
          rw [render_valued unset, List.cons_append] at split
          injection split with same split
          subst same
          rcases append_eq_append_cons split with
            ⟨others, cutName⟩ | ⟨further, rfl, cutLater⟩
          · exact scanAttributes_ne_of_cut_name plain cutName rest
          · have equals : c ∉ ['=', '"'] := notMem_of_cutsTag cuts (by decide)
            have quote : c ∉ ['"'] := notMem_of_cutsTag cuts (by decide)
            obtain ⟨value, rfl, cutQuoted⟩ :=
              append_eq_append_cons_of_notMem equals cutLater
            rcases append_eq_append_cons cutQuoted with
              ⟨others, cutValue⟩ | ⟨behind, -, impossible⟩
            · have closed : '"' ∉ value := fun member =>
                quote_notMem_escapeAttribute item.value.toList
                  (by rw [cutValue]; simp [member])
              have read := scanAttributes_unfinished plain.name_ne_nil
                plain.solid closed
              refine fun same => decodeEntities_ne_of_cut cuts cutValue ?_
              have first := congrArg List.head? (read.symm.trans same)
              injection first with first
              rw [← first, String.toList_ofList]
            · exact absurd (by rw [impossible]; simp) quote

/-- Attributes that are cut short are read as other ones. -/
theorem scanAttributes_ne_of_cut {items : List Attribute}
    (plain : ∀ item ∈ items, item.Plain) {body later : List Char} {c : Char}
    (cuts : cutsTag c = true)
    (split : items.flatMap Attribute.render = body ++ c :: later) :
    scanAttributes body ≠ items := by
  induction items generalizing body with
  | nil =>
      rw [List.flatMap_nil] at split
      simp at split
  | cons item rest inductionHypothesis =>
      have plainItem := plain item (List.mem_cons_self ..)
      have plainRest : ∀ other ∈ rest, other.Plain :=
        fun other member => plain other (List.mem_cons_of_mem _ member)
      rw [List.flatMap_cons] at split
      rcases append_eq_append_cons split with
        ⟨others, cutItem⟩ | ⟨further, rfl, cutRest⟩
      · exact scanAttributes_ne_of_cut_item plainItem cuts cutItem rest
      · have ends : EndsAttribute further := by
          cases rest with
          | nil =>
              rw [List.flatMap_nil] at cutRest
              simp at cutRest
          | cons next others =>
              have whole := (plainRest next
                (List.mem_cons_self ..)).endsAttribute
                (others.flatMap Attribute.render)
              rw [← List.flatMap_cons, cutRest] at whole
              exact whole.of_append
        rw [scanAttributes_render plainItem ends]
        intro same
        injection same with _ same
        exact inductionHypothesis plainRest cutRest same

/-- A start tag that is cut short is read as another one. -/
theorem Element.Plain.startTag_ne_of_cut {element : Element}
    (plain : element.Plain) {inside later : List Char}
    (split : element.renderHead = inside ++ '>' :: later) :
    (startTag inside).1 ≠ element.tag ∨
      (startTag inside).2.1 ≠ element.attributes := by
  obtain ⟨body, gaps, rfl, areGaps, name, attributes⟩ := startTag_eq inside
  obtain ⟨c, behind, cuts, whole⟩ :
      ∃ c behind, cutsTag c = true ∧
        element.renderHead = body ++ c :: behind := by
    cases gaps with
    | nil =>
        exact ⟨'>', later, by decide, by rw [split, List.append_nil]⟩
    | cons gap others =>
        refine ⟨gap, others ++ '>' :: later, ?_, by rw [split]; simp⟩
        rw [cutsTag, areGaps gap (List.mem_cons_self ..), Bool.true_or]
  rcases append_eq_append_cons whole with
    ⟨others, cutTag⟩ | ⟨further, rfl, cutAttributes⟩
  · left
    have solid : ∀ d ∈ body, (!isGap d) = true := by
      intro d member
      rw [plain.solid d (by rw [cutTag]; simp [member])]
      rfl
    rw [name, List.takeWhile_eq_self_iff.mpr solid]
    exact ofList_ne_of_cut cutTag
  · right
    have ended : ∀ d ∈ further.head?, isGap d = true := by
      intro d member
      refine head?_flatMap_render element.attributes d ?_
      rw [cutAttributes, List.head?_append, member]
      rfl
    rw [attributes, (takeWhile_name plain.solid ended).2]
    exact scanAttributes_ne_of_cut plain.attributes cuts cutAttributes

/-! ## Insides that go on -/

section

variable {later : List Char}

/-- A `>` behind the attributes begins the name of one more. -/
theorem scanAttributes_ne_nil_of_close {more : List Char}
    (close : later.dropWhile isGap = '>' :: more) :
    scanAttributes later ≠ [] := by
  have named : (scanAttribute ('>' :: more)).1.name.isEmpty = false := by
    have keeps : (!endsName '>') = true := by
      decide
    simp [name_scanAttribute, keeps]
  rw [scanAttributes_of_cons close, named]
  exact List.cons_ne_nil _ _

/-- A `>` behind a bare name makes the name longer. -/
theorem scanAttributes_ne_of_longer_name {item : Attribute}
    (plain : item.Plain) (more : List Char) (rest : List Attribute) :
    scanAttributes (' ' :: (item.name.toList ++ '>' :: more)) ≠
      item :: rest := by
  obtain ⟨first, others, characters, -⟩ := plain.name_eq_cons
  have found := dropWhile_isGap_space plain.name_ne_nil plain.solid
    ('>' :: more)
  have keeps : ∀ c ∈ item.name.toList, (!endsName c) = true := by
    intro c member
    rw [plain.solid c member]
    rfl
  have close : (!endsName '>') = true := by
    decide
  have longer :
      (scanAttribute (item.name.toList ++ '>' :: more)).1.name =
        String.ofList (item.name.toList ++
          '>' :: more.takeWhile (!endsName ·)) := by
    rw [name_scanAttribute, List.takeWhile_append_of_pos keeps]
    simp only [List.takeWhile_cons, close, ↓reduceIte]
  rw [characters, List.cons_append] at found longer
  rw [characters, List.cons_append, scanAttributes_of_cons found, longer,
    if_neg (by simp)]
  intro same
  injection same with same _
  rw [same, ← characters] at longer
  have lengths := congrArg (·.toList.length) longer
  simp at lengths

/-- Attributes that go on behind the tag are read as other ones. -/
theorem scanAttributes_ne_of_longer {items : List Attribute}
    (plain : ∀ item ∈ items, item.Plain) {slash more : List Char}
    (slashed : slash = [] ∨ slash = ['/']) :
    scanAttributes (items.flatMap Attribute.render ++
      (slash ++ '>' :: more)) ≠ items := by
  have close : (slash ++ '>' :: more).dropWhile isGap = '>' :: more := by
    rcases slashed with rfl | rfl
    · exact List.dropWhile_cons_of_neg (by decide)
    · exact (List.dropWhile_cons_of_pos (by decide)).trans
        (List.dropWhile_cons_of_neg (by decide))
  have further := scanAttributes_ne_nil_of_close close
  induction items with
  | nil =>
      exact further
  | cons item rest inductionHypothesis =>
      have plainItem := plain item (List.mem_cons_self ..)
      have plainRest : ∀ other ∈ rest, other.Plain :=
        fun other member => plain other (List.mem_cons_of_mem _ member)
      have longer := inductionHypothesis plainRest
      rw [List.flatMap_cons, List.append_assoc]
      intro same
      cases set_ : item.value.isEmpty with
      | false =>
          rw [scanAttributes_valued plainItem set_] at same
          injection same with _ same
          exact longer same
      | true =>
          -- A `>` right behind a bare name belongs to the name; behind
          -- anything else it begins a name of its own.
          by_cases bare : rest = [] ∧ slash = []
          · rw [bare.1, bare.2, render_empty set_] at same
            exact scanAttributes_ne_of_longer_name plainItem more [] same
          · have ends : EndsAttribute
                (rest.flatMap Attribute.render ++ (slash ++ '>' :: more)) := by
              cases rest with
              | nil =>
                  have slash_ : slash = ['/'] :=
                    slashed.resolve_left fun none_ => bare ⟨rfl, none_⟩
                  rw [slash_]
                  exact ⟨by simp [isGap], by simp [isBlank, blankCodes]⟩
              | cons next others =>
                  rw [List.flatMap_cons, List.append_assoc]
                  exact (plainRest next
                    (List.mem_cons_self ..)).endsAttribute _
            rw [scanAttributes_render plainItem ends] at same
            injection same with _ same
            exact longer same

end

/-- A start tag whose inside goes on behind it is read as another one. -/
theorem Element.Plain.startTag_ne_of_longer {element : Element}
    (plain : element.Plain) (more : List Char) :
    (startTag (element.inside ++ '>' :: more)).1 ≠ element.tag ∨
      (startTag (element.inside ++ '>' :: more)).2.1 ≠
        element.attributes := by
  obtain ⟨body, gaps, whole, areGaps, name, attributes⟩ :=
    startTag_eq (element.inside ++ '>' :: more)
  obtain ⟨further, rfl⟩ :
      ∃ further, body = element.inside ++ '>' :: further := by
    rcases append_eq_append_cons whole.symm with
      longer | ⟨shorter, -, rfl⟩
    · exact longer
    · exact absurd (areGaps '>' (by simp)) (by decide)
  have split :
      element.inside ++ '>' :: further =
        element.tag.toList ++ (element.attributes.flatMap Attribute.render ++
          ((if element.selfClosing then ['/'] else []) ++
            '>' :: further)) := by
    rw [Element.inside, Element.renderHead, List.append_assoc,
      List.append_assoc]
  by_cases bare : element.attributes = [] ∧ element.selfClosing = false
  · left
    have keeps : ∀ c ∈ element.tag.toList, (!isGap c) = true := by
      intro c member
      rw [plain.solid c member]
      rfl
    have close : (!isGap '>') = true := by
      decide
    rw [name, split, bare.1, bare.2, List.flatMap_nil,
      List.takeWhile_append_of_pos keeps]
    intro same
    have lengths := congrArg (·.toList.length) same
    simp [close] at lengths
  · right
    have ended : ∀ c ∈ (element.attributes.flatMap Attribute.render ++
        ((if element.selfClosing then ['/'] else []) ++
          '>' :: further)).head?, isGap c = true := by
      cases listed : element.attributes with
      | nil =>
          have closing : element.selfClosing = true := by
            simpa [listed] using bare
          simp [closing, isGap]
      | cons item rest =>
          rw [List.flatMap_cons, List.append_assoc]
          exact ((plain.attributes item
            (by simp [listed])).endsAttribute _).1
    rw [attributes, split, (takeWhile_name plain.solid ended).2]
    refine scanAttributes_ne_of_longer plain.attributes ?_
    cases element.selfClosing with
    | false =>
        exact .inl rfl
    | true =>
        exact .inr rfl

/-! ## Sealed start tags -/

/-- A start tag that is read as what it was written for is sealed. -/
theorem Element.Plain.isSealed_of_startTag {element : Element}
    (plain : element.Plain) {later : List Char}
    (name : (startTag (cutTag none
      (element.inside ++ '>' :: later)).1).1 = element.tag)
    (attributes : (startTag (cutTag none
      (element.inside ++ '>' :: later)).1).2.1 = element.attributes) :
    element.isSealed = true := by
  -- A tag that is not sealed has a `>` outside quotes, or an open quote at its
  -- end.
  cases open_ : quoteAfter? none element.renderHead with
  | none =>
      obtain ⟨before, after, split, closed⟩ := quoteAfter?_eq_none open_
      have cut := cutTag_append closed
        (after ++ ((if element.selfClosing then ['/'] else []) ++ '>' :: later))
      have written :
          element.inside ++ '>' :: later =
            before ++ '>' :: (after ++
              ((if element.selfClosing then ['/'] else []) ++
                '>' :: later)) := by
        rw [Element.inside, split]
        simp
      rw [written, cut] at name attributes
      exact ((plain.startTag_ne_of_cut split).elim (· name)
        (· attributes)).elim
  | some quote =>
      cases quote with
      | none =>
          rw [Element.isSealed, open_]
          rfl
      | some q =>
          have inside : quoteAfter? none element.inside = some (some q) := by
            have slash : '/' ≠ q := by
              rintro rfl
              exact absurd (isQuote_of_quoteAfter? (by simp) open_) (by decide)
            rw [Element.inside, quoteAfter?_append, open_, Option.bind_some]
            cases element.selfClosing with
            | false =>
                rfl
            | true =>
                simp [quoteAfter?, slash]
          have cut := cutTag_append_of_open inside ('>' :: later)
          rw [cut] at name attributes
          exact ((plain.startTag_ne_of_longer _).elim (· name)
            (· attributes)).elim

end KeymapViewer.Markup
