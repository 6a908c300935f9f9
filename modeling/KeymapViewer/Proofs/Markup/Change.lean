import KeymapViewer.Proofs.Markup.Canonical
import KeymapViewer.Proofs.Markup.Position

/-!
A change in one place of a document. How the document is written depends on
how the changed tree is written, and a canonical document stays canonical when
an element in it gives way to a canonical one.
-/

namespace KeymapViewer.Markup

/-! ## Writing -/

section

variable {change other : Tree → Tree} {tree : Tree} {forest : List Tree}
  {index : Nat}

theorem renderAll_modify (there : forest[index]? = some tree)
    (same : (change tree).render = (other tree).render) :
    renderAll (forest.modify index change) =
      renderAll (forest.modify index other) := by
  induction forest generalizing index with
  | nil =>
      cases there
  | cons first rest inductionHypothesis =>
      cases index with
      | zero =>
          obtain rfl := Option.some.inj there
          rw [List.modify_zero_cons, List.modify_zero_cons, renderAll,
            renderAll, same]
      | succ index =>
          rw [List.modify_succ_cons, List.modify_succ_cons, renderAll,
            renderAll, inductionHypothesis there]

/-- Trees that are written alike can stand for each other. -/
theorem Tree.render_changeAt {found : Tree} {position : List Nat}
    (there : tree.subtree? position = some found)
    (same : (change found).render = (other found).render) :
    (tree.changeAt change position).render =
      (tree.changeAt other position).render := by
  induction position generalizing tree with
  | nil =>
      rw [subtree?_nil, Option.some.injEq] at there
      rw [changeAt_nil, changeAt_nil, there, same]
  | cons index rest inductionHypothesis =>
      obtain ⟨content, children⟩ := tree
      obtain ⟨child, here, below⟩ := Option.bind_eq_some_iff.mp there
      have inside : renderAll (children.modify index (·.changeAt change rest)) =
          renderAll (children.modify index (·.changeAt other rest)) :=
        renderAll_modify here (inductionHypothesis below)
      have childless (edit : Tree → Tree) :
          (children.modify index edit).isEmpty = children.isEmpty := by
        rw [Bool.eq_iff_iff, List.isEmpty_iff, List.isEmpty_iff,
          List.modify_eq_nil_iff]
      cases content with
      | document =>
          exact inside
      | element element =>
          rw [changeAt, changeAt, render, render, inside, childless,
            childless]
      | text text =>
          rfl
      | comment text =>
          rfl
      | declaration text =>
          rfl

end

/-! ## Finding -/

namespace Tree

variable {change : Tree → Tree} {tree found : Tree} {position : List Nat}

theorem subtree?_changeAt (there : tree.subtree? position = some found) :
    (tree.changeAt change position).subtree? position =
      some (change found) := by
  have changed := subtree?_changeAt_append there change []
  rwa [List.append_nil, subtree?_nil] at changed

/-- A change of one node, with the same trees below it. -/
theorem contentAt?_changeAt_of_children
    (there : tree.subtree? position = some found)
    (same : (change found).children = found.children) (place : List Nat) :
    (tree.changeAt change position).contentAt? place =
      if place = position then some (change found).content
      else tree.contentAt? place := by
  by_cases here : place = position
  · rw [if_pos here, here, contentAt?, subtree?_changeAt there,
      Option.map_some]
  · rw [if_neg here]
    by_cases inside : position <+: place
    · obtain ⟨rest, rfl⟩ := inside
      cases rest with
      | nil =>
          exact absurd (List.append_nil position) here
      | cons index rest =>
          rw [contentAt?, contentAt?, subtree?_changeAt_append there,
            subtree?_append, there, Option.bind_some]
          cases changed : change found with
          | node content children =>
              obtain ⟨before, others⟩ := found
              rw [changed] at same
              obtain rfl : children = others := same
              rfl
    · exact contentAt?_changeAt change tree inside

/-- What is found by an id is found where it was if it keeps the id. -/
theorem first?_changeAt {id : String} (first : tree.first? id = some position)
    (there : tree.subtree? position = some found)
    (same : (change found).content.id? = found.content.id?) :
    (tree.changeAt change position).first? id = some position := by
  apply first?_of_idAt?_eq first
  intro place notAfter
  by_cases here : place = position
  · rw [here, idAt?, idAt?, contentAt?, contentAt?, there,
      subtree?_changeAt there]
    exact same
  · have outside : ¬ position <+: place := fun below =>
      here (eq_of_isPrefix_of_le below notAfter)
    rw [idAt?, idAt?, contentAt?_changeAt change tree outside]

end Tree

/-! ## Canonical documents -/

theorem head?_modify_any (kind : Tree → Bool) {change : Tree → Tree}
    {forest : List Tree} {index : Nat} {tree : Tree}
    (there : forest[index]? = some tree)
    (same : kind (change tree) = kind tree) :
    (forest.modify index change).head?.any kind = forest.head?.any kind := by
  cases forest with
  | nil =>
      cases there
  | cons first rest =>
      cases index with
      | zero =>
          obtain rfl := Option.some.inj there
          exact same
      | succ index =>
          rfl

theorem areCanonical_modify {change : Tree → Tree} {forest : List Tree}
    {index : Nat} {tree : Tree} (canonical : areCanonical forest = true)
    (there : forest[index]? = some tree)
    (stays : (change tree).isCanonical = true)
    (sameKind : (change tree).isText = tree.isText) :
    areCanonical (forest.modify index change) = true := by
  induction forest generalizing index with
  | nil =>
      cases there
  | cons first rest inductionHypothesis =>
      rw [areCanonical, Bool.and_eq_true, Bool.and_eq_true] at canonical
      obtain ⟨⟨firstCanonical, apart⟩, restCanonical⟩ := canonical
      cases index with
      | zero =>
          obtain rfl := Option.some.inj there
          rw [List.modify_zero_cons, areCanonical, stays, sameKind, apart,
            restCanonical]
          rfl
      | succ index =>
          have later : rest[index]? = some tree := there
          rw [List.modify_succ_cons, areCanonical, firstCanonical,
            head?_modify_any Tree.isText later sameKind, apart,
            inductionHypothesis restCanonical later]
          rfl

theorem isCanonical_of_getElem? {forest : List Tree} {index : Nat}
    {tree : Tree} (canonical : areCanonical forest = true)
    (there : forest[index]? = some tree) : tree.isCanonical = true := by
  induction forest generalizing index with
  | nil =>
      cases there
  | cons first rest inductionHypothesis =>
      rw [areCanonical, Bool.and_eq_true, Bool.and_eq_true] at canonical
      cases index with
      | zero =>
          obtain rfl := Option.some.inj there
          exact canonical.1.1
      | succ index =>
          exact inductionHypothesis canonical.2 there

/-- In raw text there is nothing but a text. -/
theorem isText_of_isCanonicalRawText {name : String} {children : List Tree}
    (canonical : isCanonicalRawText name children = true) {index : Nat}
    {child found : Tree} (here : children[index]? = some child)
    {rest : List Nat} (below : child.subtree? rest = some found) :
    found.isText = true := by
  unfold isCanonicalRawText at canonical
  split at canonical
  · cases here
  · cases index with
    | zero =>
        obtain rfl := Option.some.inj here
        cases rest with
        | nil =>
            obtain rfl := Option.some.inj below
            rfl
        | cons next others =>
            cases below
    | succ index =>
        cases here
  · cases canonical

/-- In a canonical tree nothing but a text is below what is alone or has raw
text, so elsewhere the children are a canonical forest, and any other can take
their place. -/
theorem Tree.areCanonical_of_below {content : Content} {children : List Tree}
    (canonical : (Tree.node content children).isCanonical = true)
    {index : Nat} {rest : List Nat} {found : Tree}
    (there : (Tree.node content children).subtree? (index :: rest) =
      some found) (plain : found.isText = false) :
    areCanonical children = true ∧
      ∀ others, areCanonical others = true →
        (Tree.node content others).isCanonical = true := by
  obtain ⟨child, here, below⟩ := Option.bind_eq_some_iff.mp there
  have nonempty : children.isEmpty = false := by
    cases children with
    | nil =>
        cases here
    | cons first others =>
        rfl
  cases content with
  | document =>
      cases canonical
  | element element =>
      rw [isCanonical, Bool.and_eq_true] at canonical
      obtain ⟨named, inside⟩ := canonical
      by_cases alone : element.isAlone = true
      · rw [if_pos alone, nonempty] at inside
        cases inside
      · rw [if_neg alone] at inside
        by_cases raw : isRawText element.tag = true
        · rw [if_pos raw] at inside
          rw [isText_of_isCanonicalRawText inside here below] at plain
          cases plain
        · rw [if_neg raw] at inside
          refine ⟨inside, fun others canonicalOthers => ?_⟩
          rw [isCanonical, named, if_neg alone, if_neg raw, canonicalOthers]
          rfl
  | text text | comment text | declaration text =>
      rw [isCanonical, nonempty, Bool.and_false] at canonical
      cases canonical

theorem Tree.isText_changeAt {change : Tree → Tree} {tree found : Tree}
    {position : List Nat} (there : tree.subtree? position = some found)
    (same : (change found).isText = found.isText) :
    (tree.changeAt change position).isText = tree.isText := by
  cases position with
  | nil =>
      rw [subtree?_nil, Option.some.injEq] at there
      rw [changeAt_nil, there, same]
  | cons index rest =>
      obtain ⟨content, children⟩ := tree
      cases content with
      | document | element element | text text | comment text
          | declaration text =>
          rfl

/-- A canonical tree stays canonical when something in it that is no text
gives way to a canonical tree that is none either. -/
theorem Tree.isCanonical_changeAt {change : Tree → Tree} {tree found : Tree}
    {position : List Nat} (canonical : tree.isCanonical = true)
    (there : tree.subtree? position = some found)
    (plain : found.isText = false) (same : (change found).isText = false)
    (stays : found.isCanonical = true → (change found).isCanonical = true) :
    (tree.changeAt change position).isCanonical = true := by
  induction position generalizing tree with
  | nil =>
      rw [subtree?_nil, Option.some.injEq] at there
      rw [changeAt_nil, there]
      exact stays (there ▸ canonical)
  | cons index rest inductionHypothesis =>
      obtain ⟨content, children⟩ := tree
      obtain ⟨inside, admits⟩ := areCanonical_of_below canonical there plain
      obtain ⟨child, here, below⟩ := Option.bind_eq_some_iff.mp there
      apply admits
      apply areCanonical_modify inside here
      · exact inductionHypothesis (isCanonical_of_getElem? inside here) below
      · exact isText_changeAt below (same.trans plain.symm)

/-- The same in a document. -/
theorem areCanonical_changeAt {change : Tree → Tree} {forest : Forest}
    {found : Tree} {position : List Nat}
    (canonical : areCanonical forest = true)
    (there : (Tree.node .document forest).subtree? position = some found)
    (inner : found.content ≠ .document) (plain : found.isText = false)
    (same : (change found).isText = false)
    (stays : found.isCanonical = true → (change found).isCanonical = true) :
    ∃ after, areCanonical after = true ∧
      (Tree.node .document forest).changeAt change position =
        .node .document after := by
  cases position with
  | nil =>
      obtain rfl := Option.some.inj there
      exact absurd rfl inner
  | cons index rest =>
      obtain ⟨child, here, below⟩ := Option.bind_eq_some_iff.mp there
      refine ⟨_, areCanonical_modify canonical here ?_ ?_, rfl⟩
      · exact Tree.isCanonical_changeAt
          (isCanonical_of_getElem? canonical here) below plain same stays
      · exact Tree.isText_changeAt below (same.trans plain.symm)

end KeymapViewer.Markup
