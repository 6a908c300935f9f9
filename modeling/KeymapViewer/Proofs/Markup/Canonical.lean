import KeymapViewer.Proofs.Markup.Legible

/-!
Documents in canonical form: no name is cut short, no text holds a bracket or
stands next to another, and raw text elements hold at most one text without
their own end tag. Reading undoes the writing of such a document.
-/

namespace KeymapViewer.Markup

open Text

/-! ## Canonical form -/

/-- A name without white space, slashes, closing brackets and quotes. -/
def isCanonicalName (name : String) : Bool :=
  !name.isEmpty &&
    name.toList.all fun c => !(isGap c || c == '>' || isQuote c)

def Attribute.isCanonical (item : Attribute) : Bool :=
  isCanonicalName item.name && !item.name.toList.contains '='

def Element.isCanonical (element : Element) : Bool :=
  element.tag.toList.head?.any Char.isAlpha &&
    isCanonicalName element.tag && element.attributes.all (·.isCanonical)

/-- No content, or one text in which the end tag of its element does not
begin. -/
def isCanonicalRawText (name : String) : List Tree → Bool
  | [] => true
  | [.node (.text text) []] =>
    !text.isEmpty && !occurs (beginsEndTag name) text.toList
  | _ => false

mutual

def Tree.isCanonical : Tree → Bool
  | .node .document _ => false
  | .node (.element element) children =>
    element.isCanonical &&
      if element.isAlone then children.isEmpty
      else if isRawText element.tag then
        isCanonicalRawText element.tag children
      else areCanonical children
  | .node (.text text) children =>
    !text.isEmpty && !text.toList.contains '<' && children.isEmpty
  | .node (.comment text) children =>
    !occurs ("-->".toList.isPrefixOf ·) text.toList && children.isEmpty
  | .node (.declaration text) children =>
    !text.toList.contains '>' && !"--".toList.isPrefixOf text.toList &&
      children.isEmpty

/-- Whether all trees are canonical and no two texts are next to each
other. -/
def areCanonical : List Tree → Bool
  | [] => true
  | tree :: rest =>
    tree.isCanonical && !(tree.isText && rest.head?.any Tree.isText) &&
      areCanonical rest

end

/-! ## Names -/

theorem isCanonicalName_iff (name : String) :
    isCanonicalName name = true ↔
      name ≠ "" ∧ ∀ c ∈ name.toList,
        isGap c = false ∧ c ≠ '>' ∧ isQuote c = false := by
  simp [isCanonicalName, and_assoc]

theorem Attribute.plain_of_isCanonical {item : Attribute}
    (canonical : item.isCanonical = true) : item.Plain := by
  rw [Attribute.isCanonical, Bool.and_eq_true, isCanonicalName_iff]
    at canonical
  obtain ⟨⟨named, solid⟩, noEquals⟩ := canonical
  refine ⟨named, fun c member => ?_⟩
  rw [endsName, (solid c member).1, Bool.false_or, beq_eq_false_iff_ne]
  rintro rfl
  simp [member] at noEquals

theorem Element.plain_of_isCanonical {element : Element}
    (canonical : element.isCanonical = true) :
    element.Plain ∧ element.isSealed = true ∧ '>' ∉ element.tag.toList := by
  simp only [Element.isCanonical, Bool.and_eq_true, isCanonicalName_iff,
    List.all_eq_true] at canonical
  obtain ⟨⟨letter, -, solid⟩, attributes⟩ := canonical
  refine ⟨⟨?_, fun c member => (solid c member).1, fun item member =>
    Attribute.plain_of_isCanonical (attributes item member)⟩, ?_, ?_⟩
  · cases characters : element.tag.toList with
    | nil =>
        rw [characters] at letter
        cases letter
    | cons first rest =>
        rw [characters] at letter
        exact ⟨first, rest, rfl, letter⟩
  · refine Element.isSealed_of_plain
      (fun c member => ⟨(solid c member).2.2, (solid c member).2.1⟩)
      fun item listed c member => ?_
    have named := attributes item listed
    rw [Attribute.isCanonical, Bool.and_eq_true, isCanonicalName_iff] at named
    exact ⟨(named.1.2 c member).2.2, (named.1.2 c member).2.1⟩
  · exact fun member => (solid _ member).2.1 rfl

/-! ## Texts -/

theorem textRuns_of_notMem {text : String} (nonempty : text ≠ "")
    (absent : '<' ∉ text.toList) : textRuns text = [text] := by
  have some : text.toList ≠ [] := fun none_ =>
    nonempty (String.toList_eq_nil_iff.mp none_)
  rw [textRuns, tokenize, tokens_of_notMem some absent, String.ofList_toList]
  rfl

/-! ## Trees -/

/-- What a canonical forest has: reading can make it, it is settled and
legible, and its texts are single runs. -/
structure ReadsBack (forest : List Tree) : Prop where
  tidy : TidyAll forest
  settled : SettledAll forest
  legible : areLegible forest = true
  whole : breakAll forest = forest

theorem readsBack_nil : ReadsBack [] :=
  ⟨trivial, trivial, rfl, rfl⟩

theorem ReadsBack.cons {tree : Tree} {rest : List Tree}
    (first : ReadsBack [tree])
    (apart : (tree.isText && rest.head?.any Tree.isText) = false)
    (others : ReadsBack rest) : ReadsBack (tree :: rest) := by
  refine ⟨⟨first.tidy.1, others.tidy⟩,
    ⟨first.settled.1, fun isText => ?_, others.settled⟩, ?_, ?_⟩
  · rwa [isText, Bool.true_and] at apart
  · have legible := first.legible
    rw [areLegible, Bool.and_eq_true] at legible
    rw [areLegible, legible.1, others.legible]
    rfl
  · have single := first.whole
    rw [breakAll, breakAll, List.append_nil] at single
    rw [breakAll, single, others.whole]
    rfl

theorem readsBack_text {text : String} (nonempty : text ≠ "")
    (absent : '<' ∉ text.toList) : ReadsBack [.leaf (.text text)] := by
  refine ⟨⟨⟨nonempty, rfl⟩, trivial⟩, ⟨trivial, fun _ => rfl, trivial⟩,
    ?_, ?_⟩
  · rw [Tree.leaf, areLegible, Tree.isLegible, isHarmless_of_notMem absent]
    rfl
  · rw [Tree.leaf, breakAll, Tree.breakTexts,
      textRuns_of_notMem nonempty absent]
    rfl

/-- The content of a raw text element, which is not broken up. -/
theorem tidy_of_isCanonicalRawText {name : String} {children : List Tree}
    (canonical : isCanonicalRawText name children = true) :
    TidyAll children ∧ SettledAll children ∧
      isRawContent name children = true := by
  unfold isCanonicalRawText at canonical
  split at canonical
  · exact ⟨trivial, trivial, rfl⟩
  · rename_i text
    rw [Bool.and_eq_true] at canonical
    refine ⟨⟨⟨?_, rfl⟩, trivial⟩, ⟨trivial, fun _ => rfl, trivial⟩,
      canonical.2⟩
    rintro rfl
    cases canonical.1
  · cases canonical

theorem readsBack_element {element : Element} {children : List Tree}
    (canonical : element.isCanonical = true)
    (childless : element.isAlone = true → children = [])
    (tidy : TidyAll children) (settled : SettledAll children)
    (content : element.isAlone = false →
      (if isRawText element.tag then isRawContent element.tag children
        else areLegible children) = true)
    (whole : (if isRawText element.tag then children
      else breakAll children) = children) :
    ReadsBack [.node (.element element) children] := by
  obtain ⟨plain, closed, open_⟩ := Element.plain_of_isCanonical canonical
  refine ⟨⟨⟨plain, childless, tidy⟩, trivial⟩,
    ⟨settled, fun _ => rfl, trivial⟩, ?_, ?_⟩
  · rw [areLegible, areLegible, Tree.isLegible, closed]
    cases alone : element.isAlone with
    | true =>
        rfl
    | false =>
        rw [content alone]
        simpa using open_
  · rw [breakAll, breakAll, Tree.breakTexts, whole]
    rfl

mutual

theorem readsBack_of_isCanonical (tree : Tree)
    (canonical : tree.isCanonical = true) : ReadsBack [tree] := by
  cases tree with
  | node content children =>
      cases content with
      | document =>
          cases canonical
      | element element =>
          rw [Tree.isCanonical, Bool.and_eq_true] at canonical
          obtain ⟨named, below⟩ := canonical
          by_cases alone : element.isAlone = true
          · rw [if_pos alone, List.isEmpty_iff] at below
            subst below
            exact readsBack_element named (fun _ => rfl) trivial trivial
              (fun several => absurd alone (by simp [several]))
              (by rw [breakAll, ite_self])
          · rw [if_neg alone] at below
            by_cases raw : isRawText element.tag = true
            · rw [if_pos raw] at below
              obtain ⟨tidy, settled, content⟩ :=
                tidy_of_isCanonicalRawText below
              exact readsBack_element named (fun one => absurd one alone)
                tidy settled (fun _ => by rw [if_pos raw, content])
                (if_pos raw)
            · rw [if_neg raw] at below
              obtain ⟨tidy, settled, legible, whole⟩ :=
                readsBack_of_areCanonical children below
              exact readsBack_element named (fun one => absurd one alone)
                tidy settled (fun _ => by rw [if_neg raw, legible])
                ((if_neg raw).trans whole)
      | text text =>
          simp only [Tree.isCanonical, Bool.and_eq_true, List.isEmpty_iff]
            at canonical
          obtain ⟨⟨nonempty, absent⟩, rfl⟩ := canonical
          exact readsBack_text (by simpa using nonempty)
            (by simpa using absent)
      | comment text =>
          simp only [Tree.isCanonical, Bool.and_eq_true, Bool.not_eq_true',
            List.isEmpty_iff] at canonical
          obtain ⟨absent, rfl⟩ := canonical
          exact ⟨⟨⟨absent, rfl⟩, trivial⟩, ⟨trivial, fun _ => rfl, trivial⟩,
            rfl, rfl⟩
      | declaration text =>
          simp only [Tree.isCanonical, Bool.and_eq_true, Bool.not_eq_true',
            List.isEmpty_iff] at canonical
          obtain ⟨⟨closed, noComment⟩, rfl⟩ := canonical
          exact ⟨⟨⟨by simpa using closed, noComment, rfl⟩, trivial⟩,
            ⟨trivial, fun _ => rfl, trivial⟩, rfl, rfl⟩

theorem readsBack_of_areCanonical (forest : List Tree)
    (canonical : areCanonical forest = true) : ReadsBack forest := by
  cases forest with
  | nil =>
      exact readsBack_nil
  | cons tree rest =>
      simp only [areCanonical, Bool.and_eq_true, Bool.not_eq_true']
        at canonical
      exact (readsBack_of_isCanonical tree canonical.1.1).cons
        canonical.1.2 (readsBack_of_areCanonical rest canonical.2)

end

theorem ReadsBack.parse {forest : Forest} (back : ReadsBack forest) :
    Forest.parse (String.ofList (renderAll forest)) = forest := by
  rw [parse_renderAll back.tidy back.settled back.legible, back.whole]

end KeymapViewer.Markup
