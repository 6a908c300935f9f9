import KeymapViewer.Proofs.Markup.Written

/-!
Texts next to each other. They are written without a border between them, so a
forest is settled by joining them; what is read back is the settled forest with
its texts broken into runs.
-/

namespace KeymapViewer.Markup

open Text

def Tree.isText : Tree → Bool
  | .node (.text _) _ => true
  | _ => false

/-- Puts a tree before others, and joins two texts. -/
def joinText : Tree → List Tree → List Tree
  | .node (.text first) [], .node (.text second) [] :: rest =>
    .leaf (.text (first ++ second)) :: rest
  | tree, rest => tree :: rest

mutual

/-- The tree with its texts joined where they are next to each other. -/
def Tree.settle : Tree → Tree
  | .node content children => .node content (settleAll children)

def settleAll : List Tree → List Tree
  | [] => []
  | tree :: rest => joinText tree.settle (settleAll rest)

end

mutual

/-- Whether no two texts are next to each other. -/
def Tree.Settled : Tree → Prop
  | .node _ children => SettledAll children

def SettledAll : List Tree → Prop
  | [] => True
  | tree :: rest =>
    tree.Settled ∧
      (tree.isText = true → rest.head?.any Tree.isText = false) ∧
      SettledAll rest

end

/-! ## Joining texts -/

/-- Two texts are joined, and anything else is left as it is. -/
theorem joinText_cases (tree : Tree) (rest : List Tree) :
    joinText tree rest = tree :: rest ∨
      ∃ first second others, tree = .leaf (.text first) ∧
        rest = .leaf (.text second) :: others ∧
        joinText tree rest = .leaf (.text (first ++ second)) :: others := by
  unfold joinText
  split
  · exact .inr ⟨_, _, _, rfl, rfl, rfl⟩
  · exact .inl rfl

theorem renderAll_joinText (tree : Tree) (rest : List Tree) :
    renderAll (joinText tree rest) = renderAll (tree :: rest) := by
  rcases joinText_cases tree rest with
    same | ⟨first, second, others, rfl, rfl, joined⟩
  · rw [same]
  · rw [joined]
    simp only [renderAll, Tree.leaf, Tree.render, String.toList_append,
      List.append_assoc]

theorem tidyAll_joinText {tree : Tree} {rest : List Tree}
    (tidy : tree.Tidy) (tidyRest : TidyAll rest) :
    TidyAll (joinText tree rest) := by
  rcases joinText_cases tree rest with
    same | ⟨first, second, others, rfl, rfl, joined⟩
  · rw [same]
    exact ⟨tidy, tidyRest⟩
  · rw [joined]
    refine ⟨⟨fun empty => ?_, rfl⟩, tidyRest.2⟩
    have nothing := congrArg String.toList empty
    rw [String.toList_append, String.toList_empty, List.append_eq_nil_iff]
      at nothing
    exact tidy.1 (String.toList_eq_nil_iff.mp nothing.1)

theorem joinText_ne_nil (tree : Tree) (rest : List Tree) :
    joinText tree rest ≠ [] := by
  rcases joinText_cases tree rest with
    same | ⟨first, second, others, rfl, rfl, joined⟩
  · rw [same]
    exact List.cons_ne_nil tree rest
  · rw [joined]
    exact List.cons_ne_nil _ others

/-! ## Settling -/

theorem settleAll_eq_nil_iff (forest : List Tree) :
    settleAll forest = [] ↔ forest = [] := by
  cases forest with
  | nil =>
      exact ⟨fun _ => rfl, fun _ => rfl⟩
  | cons tree rest =>
      rw [settleAll]
      exact ⟨fun empty => absurd empty (joinText_ne_nil _ _),
        fun empty => absurd empty (List.cons_ne_nil tree rest)⟩

theorem isEmpty_settleAll (forest : List Tree) :
    (settleAll forest).isEmpty = forest.isEmpty := by
  cases forest with
  | nil =>
      rfl
  | cons tree rest =>
      rw [List.isEmpty_cons]
      exact List.isEmpty_eq_false_iff.mpr
        fun empty => absurd ((settleAll_eq_nil_iff _).mp empty)
          (List.cons_ne_nil tree rest)

mutual

/-- A settled tree is written as it was before. -/
theorem render_settle (tree : Tree) : tree.settle.render = tree.render := by
  cases tree with
  | node content children =>
      have below := renderAll_settleAll children
      cases content with
      | document =>
          exact below
      | element element =>
          rw [Tree.settle, Tree.render, Tree.render, below,
            isEmpty_settleAll]
      | text text =>
          rfl
      | comment text =>
          rfl
      | declaration text =>
          rfl

theorem renderAll_settleAll (forest : List Tree) :
    renderAll (settleAll forest) = renderAll forest := by
  cases forest with
  | nil =>
      rfl
  | cons tree rest =>
      rw [settleAll, renderAll_joinText, renderAll, render_settle tree,
        renderAll_settleAll rest, renderAll]

end

mutual

theorem tidy_settle (tree : Tree) (tidy : tree.Tidy) :
    tree.settle.Tidy := by
  cases tree with
  | node content children =>
      cases content with
      | document =>
          exact tidy.elim
      | element element =>
          obtain ⟨plain, childless, below⟩ := tidy
          exact ⟨plain,
            fun alone => (settleAll_eq_nil_iff _).mpr (childless alone),
            tidyAll_settleAll children below⟩
      | text text =>
          exact ⟨tidy.1, (settleAll_eq_nil_iff _).mpr tidy.2⟩
      | comment text =>
          exact ⟨tidy.1, (settleAll_eq_nil_iff _).mpr tidy.2⟩
      | declaration text =>
          exact ⟨tidy.1, tidy.2.1, (settleAll_eq_nil_iff _).mpr tidy.2.2⟩

theorem tidyAll_settleAll (forest : List Tree) (tidy : TidyAll forest) :
    TidyAll (settleAll forest) := by
  cases forest with
  | nil =>
      trivial
  | cons tree rest =>
      exact tidyAll_joinText (tidy_settle tree tidy.1)
        (tidyAll_settleAll rest tidy.2)

end

theorem Tree.Tidy.eq_text {tree : Tree} (tidy : tree.Tidy)
    (isText : tree.isText = true) :
    ∃ text, text ≠ "" ∧ tree = .leaf (.text text) := by
  cases tree with
  | node content children =>
      cases content with
      | document =>
          cases isText
      | element element =>
          cases isText
      | text text =>
          exact ⟨text, tidy.1, by rw [tidy.2, Tree.leaf]⟩
      | comment text =>
          cases isText
      | declaration text =>
          cases isText

theorem settledAll_joinText {tree : Tree} {rest : List Tree}
    (tidy : tree.Tidy) (tidyRest : TidyAll rest)
    (settled : tree.Settled) (settledRest : SettledAll rest) :
    SettledAll (joinText tree rest) := by
  rcases joinText_cases tree rest with
    same | ⟨first, second, others, rfl, rfl, joined⟩
  · rw [same]
    refine ⟨settled, fun isText => ?_, settledRest⟩
    by_contra adjacent
    rw [Bool.not_eq_false] at adjacent
    cases rest with
    | nil =>
        cases adjacent
    | cons next others =>
        obtain ⟨first, -, rfl⟩ := tidy.eq_text isText
        obtain ⟨second, -, rfl⟩ := tidyRest.1.eq_text adjacent
        have lengths := congrArg List.length same
        simp [joinText, Tree.leaf] at lengths
  · rw [joined]
    exact ⟨trivial, fun _ => settledRest.2.1 rfl, settledRest.2.2⟩

mutual

theorem settled_settle (tree : Tree) (tidy : tree.Tidy) :
    tree.settle.Settled := by
  cases tree with
  | node content children =>
      cases content with
      | document =>
          exact tidy.elim
      | element element =>
          exact settledAll_settleAll children tidy.2.2
      | text text =>
          rw [tidy.2]
          trivial
      | comment text =>
          rw [tidy.2]
          trivial
      | declaration text =>
          rw [tidy.2.2]
          trivial

/-- No two texts of a settled forest are next to each other. -/
theorem settledAll_settleAll (forest : List Tree) (tidy : TidyAll forest) :
    SettledAll (settleAll forest) := by
  cases forest with
  | nil =>
      trivial
  | cons tree rest =>
      exact settledAll_joinText (tidy_settle tree tidy.1)
        (tidyAll_settleAll rest tidy.2) (settled_settle tree tidy.1)
        (settledAll_settleAll rest tidy.2)

end

theorem joinText_of_settled {tree : Tree} {rest : List Tree}
    (settled : tree.isText = true → rest.head?.any Tree.isText = false) :
    joinText tree rest = tree :: rest := by
  rcases joinText_cases tree rest with
    same | ⟨first, second, others, rfl, rfl, -⟩
  · exact same
  · have apart := settled rfl
    cases apart

mutual

theorem settle_of_settled (tree : Tree) (settled : tree.Settled) :
    tree.settle = tree := by
  cases tree with
  | node content children =>
      rw [Tree.settle, settleAll_of_settled children settled]

theorem settleAll_of_settled (forest : List Tree)
    (settled : SettledAll forest) : settleAll forest = forest := by
  cases forest with
  | nil =>
      rfl
  | cons tree rest =>
      rw [settleAll, settle_of_settled tree settled.1,
        settleAll_of_settled rest settled.2.2,
        joinText_of_settled settled.2.1]

end

/-! ## Runs of text -/

def Token.run? : Token → Option String
  | .text run => some run
  | _ => none

/-- The texts that a text is read as. -/
def textRuns (text : String) : List String :=
  (tokenize text).filterMap Token.run?

mutual

/-- A tree with its texts broken into runs. The content of a raw text element
is one run. -/
def Tree.breakTexts : Tree → List Tree
  | .node (.text text) _ =>
    (textRuns text).map fun run => .leaf (.text run)
  | .node (.element element) children =>
    [.node (.element element)
      (if isRawText element.tag then children else breakAll children)]
  | tree => [tree]

def breakAll : List Tree → List Tree
  | [] => []
  | tree :: rest => tree.breakTexts ++ breakAll rest

end

/-- A harmless text is read as runs of itself. -/
theorem tokens_eq_runs {text : List Char} (harmless : isHarmless text = true) :
    ∃ runs : List String, tokens text = runs.map .text ∧
      runs.flatMap String.toList = text ∧ ∀ run ∈ runs, run ≠ "" := by
  -- A run is either a lone `<` or reaches up to the next one.
  induction size : text.length using Nat.strong_induction_on
    generalizing text with
  | _ count inductionHypothesis =>
  cases text with
  | nil =>
      exact ⟨[], tokens_nil, rfl, by simp⟩
  | cons c rest =>
      have split := harmless
      rw [isHarmless, Bool.and_eq_true, Bool.not_eq_true'] at split
      rw [List.length_cons] at size
      by_cases opens : c = '<'
      · subst opens
        have closed : rest.head?.any opensMarkup = false := by
          simpa using split.1
        obtain ⟨runs, read, whole, nonempty⟩ :=
          inductionHypothesis rest.length (by omega) split.2 rfl
        refine ⟨"<" :: runs, ?_, ?_, ?_⟩
        · rw [tokens_open, scanTag_of_text closed, read]
          rfl
        · rw [List.flatMap_cons, whole]
          rfl
        · intro run member
          rcases List.mem_cons.mp member with rfl | later
          · exact open_ne_empty
          · exact nonempty run later
      · have shorter := length_dropWhile_le (· != '<') rest
        obtain ⟨runs, read, whole, nonempty⟩ :=
          inductionHypothesis _ (by omega)
            (isHarmless_dropWhile split.2 (· != '<')) rfl
        refine ⟨String.ofList (c :: rest.takeWhile (· != '<')) :: runs,
          ?_, ?_, ?_⟩
        · rw [tokens_run opens, read, List.map_cons]
        · rw [List.flatMap_cons, whole, String.toList_ofList,
            List.cons_append, List.takeWhile_append_dropWhile]
        · intro run member
          rcases List.mem_cons.mp member with rfl | later
          · exact fun empty => by simp at empty
          · exact nonempty run later

theorem textRuns_spec {text : String}
    (harmless : isHarmless text.toList = true) :
    tokenize text = (textRuns text).map .text ∧
      (textRuns text).flatMap String.toList = text.toList ∧
      ∀ run ∈ textRuns text, run ≠ "" := by
  obtain ⟨runs, read, whole, nonempty⟩ := tokens_eq_runs harmless
  have same : textRuns text = runs := by
    unfold textRuns tokenize
    rw [read, List.filterMap_map]
    exact List.filterMap_some
  rw [same]
  exact ⟨read, whole, nonempty⟩

theorem textRuns_ne_nil {text : String} (nonempty : text ≠ "")
    (harmless : isHarmless text.toList = true) : textRuns text ≠ [] := by
  intro none_
  obtain ⟨-, whole, -⟩ := textRuns_spec harmless
  rw [none_, List.flatMap_nil] at whole
  exact nonempty (String.toList_eq_nil_iff.mp whole.symm)

/-- Joining runs before something that is no text makes one text of them. -/
theorem settleAll_runs {runs : List String} (nonempty : runs ≠ [])
    {later : List Tree}
    (apart : (settleAll later).head?.any Tree.isText = false) :
    settleAll (runs.map (fun run => .leaf (.text run)) ++ later) =
      .leaf (.text (String.ofList (runs.flatMap String.toList))) ::
        settleAll later := by
  induction runs with
  | nil =>
      exact absurd rfl nonempty
  | cons run others inductionHypothesis =>
      cases others with
      | nil =>
          rw [List.map_singleton, List.singleton_append, settleAll]
          have single : String.ofList ([run].flatMap String.toList) = run := by
            simp
          rw [single]
          exact joinText_of_settled fun _ => apart
      | cons next rest =>
          have joined := inductionHypothesis (List.cons_ne_nil next rest)
          have whole :
              String.ofList ((run :: next :: rest).flatMap String.toList) =
                run ++
                  String.ofList ((next :: rest).flatMap String.toList) := by
            rw [List.flatMap_cons, String.ofList_append,
              String.ofList_toList]
          rw [whole, List.map_cons, List.cons_append, settleAll, joined]
          rfl

end KeymapViewer.Markup
