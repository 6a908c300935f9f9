import KeymapViewer.Markup.Tree
import Mathlib.Data.List.Lex
import Mathlib.Tactic.Common

/-!
Positions in a tree. A position is the list of child numbers on the way to a
node. Changing the tree at a position leaves every node alone that is not
below it, in content and in position.
-/

namespace KeymapViewer.Markup

def Tree.content : Tree → Content
  | .node content _ => content

def Tree.children : Tree → Forest
  | .node _ children => children

namespace Tree

/-- The tree at a position. -/
def subtree? : Tree → List Nat → Option Tree
  | tree, [] => some tree
  | .node _ children, index :: rest =>
    children[index]?.bind (·.subtree? rest)

def contentAt? (tree : Tree) (position : List Nat) : Option Content :=
  (tree.subtree? position).map content

/-- Changes the tree at a position. -/
def changeAt (change : Tree → Tree) : Tree → List Nat → Tree
  | tree, [] => change tree
  | .node content children, index :: rest =>
    .node content (children.modify index (·.changeAt change rest))

/-- The tree with other children. -/
def withChildren (children : Forest) : Tree → Tree
  | .node content _ => .node content children

@[simp]
theorem subtree?_nil (tree : Tree) : tree.subtree? [] = some tree := by
  cases tree with
  | node content children =>
      rfl

@[simp]
theorem changeAt_nil (change : Tree → Tree) (tree : Tree) :
    tree.changeAt change [] = change tree := by
  cases tree with
  | node content children =>
      rfl

theorem subtree?_append (tree : Tree) (position rest : List Nat) :
    tree.subtree? (position ++ rest) =
      (tree.subtree? position).bind (·.subtree? rest) := by
  induction position generalizing tree with
  | nil =>
      rw [subtree?_nil, List.nil_append, Option.bind_some]
  | cons index others inductionHypothesis =>
      obtain ⟨content, children⟩ := tree
      simp only [List.cons_append, subtree?]
      cases children[index]? with
      | none =>
          rfl
      | some child =>
          exact inductionHypothesis child

/-- At and below the position of a change the tree is what the change makes
of it. -/
theorem subtree?_changeAt_append {tree found : Tree} {position : List Nat}
    (there : tree.subtree? position = some found) (change : Tree → Tree)
    (rest : List Nat) :
    (tree.changeAt change position).subtree? (position ++ rest) =
      (change found).subtree? rest := by
  induction position generalizing tree with
  | nil =>
      rw [subtree?_nil, Option.some.injEq] at there
      rw [there, changeAt_nil, List.nil_append]
  | cons index others inductionHypothesis =>
      obtain ⟨content, children⟩ := tree
      obtain ⟨child, here, below⟩ := Option.bind_eq_some_iff.mp there
      simp only [changeAt, List.cons_append, subtree?,
        List.getElem?_modify_eq, here]
      exact inductionHypothesis below

/-- A change of the tree at a position depends on what it makes of that tree
alone. -/
theorem changeAt_congr {tree found : Tree} {position : List Nat}
    (there : tree.subtree? position = some found) {change other : Tree → Tree}
    (same : change found = other found) :
    tree.changeAt change position = tree.changeAt other position := by
  induction position generalizing tree with
  | nil =>
      rw [subtree?_nil, Option.some.injEq] at there
      rw [changeAt_nil, changeAt_nil, there, same]
  | cons index rest inductionHypothesis =>
      obtain ⟨content, children⟩ := tree
      obtain ⟨child, here, below⟩ := Option.bind_eq_some_iff.mp there
      rw [changeAt, changeAt]
      congr 1
      refine List.ext_getElem? fun place => ?_
      by_cases changed : index = place
      · subst changed
        rw [List.getElem?_modify_eq, List.getElem?_modify_eq, here]
        exact congrArg some (inductionHypothesis below)
      · rw [List.getElem?_modify_ne _ _ changed,
          List.getElem?_modify_ne _ _ changed]

/-- A change leaves the content of all nodes alone that are neither at its
position nor below. -/
theorem contentAt?_changeAt (change : Tree → Tree) (tree : Tree)
    {position other : List Nat} (outside : ¬ position <+: other) :
    (tree.changeAt change position).contentAt? other =
      tree.contentAt? other := by
  induction position generalizing tree other with
  | nil =>
      exact absurd List.nil_prefix outside
  | cons index rest inductionHypothesis =>
      obtain ⟨content, children⟩ := tree
      cases other with
      | nil =>
          rfl
      | cons first others =>
          simp only [changeAt, contentAt?, subtree?]
          by_cases same : index = first
          · subst same
            rw [List.prefix_cons_inj] at outside
            rw [List.getElem?_modify_eq]
            cases children[index]? with
            | none =>
                rfl
            | some child =>
                exact inductionHypothesis child outside
          · rw [List.getElem?_modify_ne _ _ same]

/-- Other children for the node at a position leave the content of all nodes
alone that are not below it. -/
theorem contentAt?_withChildren {tree found : Tree}
    {position other : List Nat}
    (there : tree.subtree? position = some found) (children : Forest)
    (outside : position <+: other → other = position) :
    (tree.changeAt (withChildren children) position).contentAt? other =
      tree.contentAt? other := by
  by_cases isPrefix : position <+: other
  · obtain rfl := outside isPrefix
    have changed :=
      subtree?_changeAt_append there (withChildren children) []
    rw [List.append_nil, subtree?_nil] at changed
    rw [contentAt?, contentAt?, there, changed]
    obtain ⟨content, before⟩ := found
    rfl
  · exact contentAt?_changeAt _ tree isPrefix

end Tree

/-- The content at a position below a forest. -/
def contentBelow? (trees : List Tree) (index : Nat) (rest : List Nat) :
    Option Content :=
  trees[index]?.bind (·.contentAt? rest)

namespace Tree

theorem contentAt?_nil (content : Content) (children : List Tree) :
    (Tree.node content children).contentAt? [] = some content := by
  rw [contentAt?, subtree?_nil, Option.map_some, Tree.content]

theorem contentAt?_cons (content : Content) (children : List Tree)
    (index : Nat) (rest : List Nat) :
    (Tree.node content children).contentAt? (index :: rest) =
      contentBelow? children index rest := by
  simp only [contentAt?, subtree?, contentBelow?]
  cases children[index]? with
  | none =>
      rfl
  | some child =>
      rfl

end Tree

mutual

/-- A tree is known from the contents at its positions. -/
theorem Tree.eq_of_contentAt? (first second : Tree)
    (same : ∀ position,
      first.contentAt? position = second.contentAt? position) :
    first = second := by
  obtain ⟨content, children⟩ := first
  obtain ⟨other, others⟩ := second
  have root := same []
  rw [Tree.contentAt?_nil, Tree.contentAt?_nil, Option.some.injEq] at root
  have below := eq_of_contentBelow? children others fun index rest => by
    rw [← Tree.contentAt?_cons content, same, Tree.contentAt?_cons]
  rw [root, below]

theorem eq_of_contentBelow? (first second : List Tree)
    (same : ∀ index rest,
      contentBelow? first index rest = contentBelow? second index rest) :
    first = second := by
  have root (tree : Tree) : tree.contentAt? [] ≠ none := by
    rw [Tree.contentAt?, Tree.subtree?_nil]
    exact Option.some_ne_none _
  cases first with
  | nil =>
      cases second with
      | nil =>
          rfl
      | cons other others =>
          exact absurd (same 0 []).symm (root other)
  | cons tree rest =>
      cases second with
      | nil =>
          exact absurd (same 0 []) (root tree)
      | cons other others =>
          rw [Tree.eq_of_contentAt? tree other (same 0),
            eq_of_contentBelow? rest others fun index => same (index + 1)]

end

/-! ## The first element with an id -/

/-- What is below a position does not come before it. -/
theorem not_lt_of_isPrefix {position other : List Nat}
    (below : position <+: other) : ¬ other < position := by
  obtain ⟨rest, rfl⟩ := below
  induction position with
  | nil =>
      exact List.not_lt_nil _
  | cons index position inductionHypothesis =>
      rw [List.cons_append, List.cons_lt_cons_iff]
      rintro (less | ⟨-, less⟩)
      · exact Nat.lt_irrefl index less
      · exact inductionHypothesis less

theorem eq_of_isPrefix_of_le {position other : List Nat}
    (below : position <+: other) (notAfter : other ≤ position) :
    other = position :=
  notAfter.eq_or_lt.resolve_right (not_lt_of_isPrefix below)

/-- The id of an element that has one. -/
def Content.id? : Content → Option String
  | .element item => item.attribute? "id"
  | _ => none

/-- The position of what is one place further to the right. -/
def nextSibling : List Nat → List Nat
  | [] => []
  | index :: rest => (index + 1) :: rest

mutual

/-- The position of the first element with an id in document order. -/
def Tree.first? (id : String) : Tree → Option (List Nat)
  | .node content children =>
    if content.id? = some id then some [] else firstAll? id children

def firstAll? (id : String) : List Tree → Option (List Nat)
  | [] => none
  | tree :: rest =>
    match tree.first? id with
    | some position => some (0 :: position)
    | none => (firstAll? id rest).map nextSibling

end

namespace Tree

def idAt? (tree : Tree) (position : List Nat) : Option String :=
  (tree.contentAt? position).bind Content.id?

/-- The element at a position is the first one with an id in document order,
which is the lexicographic order of the positions. -/
structure IsFirst (tree : Tree) (id : String) (position : List Nat) :
    Prop where
  has : tree.idAt? position = some id
  before : ∀ other < position, tree.idAt? other ≠ some id

theorem IsFirst.unique {tree : Tree} {id : String} {first second : List Nat}
    (isFirst : tree.IsFirst id first) (isSecond : tree.IsFirst id second) :
    first = second := by
  rcases lt_trichotomy first second with before | same | after
  · exact absurd isFirst.has (isSecond.before first before)
  · exact same
  · exact absurd isSecond.has (isFirst.before second after)

end Tree

/-- The id at a position below a forest. -/
def idBelow? (trees : List Tree) (index : Nat) (rest : List Nat) :
    Option String :=
  (contentBelow? trees index rest).bind Content.id?

theorem Tree.idAt?_cons (content : Content) (children : List Tree)
    (index : Nat) (rest : List Nat) :
    (Tree.node content children).idAt? (index :: rest) =
      idBelow? children index rest := by
  rw [Tree.idAt?, Tree.contentAt?_cons, idBelow?]

mutual

theorem Tree.idAt?_ne_of_first?_eq_none (tree : Tree) {id : String}
    (missing : tree.first? id = none) (position : List Nat) :
    tree.idAt? position ≠ some id := by
  obtain ⟨content, children⟩ := tree
  rw [Tree.first?] at missing
  split at missing
  · cases missing
  · rename_i other
    cases position with
    | nil =>
        exact other
    | cons index rest =>
        rw [Tree.idAt?_cons]
        exact idBelow?_ne_of_firstAll?_eq_none children missing index rest

theorem idBelow?_ne_of_firstAll?_eq_none (trees : List Tree) {id : String}
    (missing : firstAll? id trees = none) (index : Nat) (rest : List Nat) :
    idBelow? trees index rest ≠ some id := by
  cases trees with
  | nil =>
      exact nofun
  | cons tree others =>
      rw [firstAll?] at missing
      split at missing
      · cases missing
      · rename_i missingHere
        cases index with
        | zero =>
            exact Tree.idAt?_ne_of_first?_eq_none tree missingHere rest
        | succ index =>
            exact idBelow?_ne_of_firstAll?_eq_none others
              (Option.map_eq_none_iff.mp missing) index rest

end

mutual

theorem Tree.isFirst_of_first? (tree : Tree) {id : String}
    {position : List Nat} (found : tree.first? id = some position) :
    tree.IsFirst id position := by
  obtain ⟨content, children⟩ := tree
  rw [Tree.first?] at found
  split at found
  · rename_i here
    obtain rfl := Option.some.inj found
    exact ⟨here, fun other before => absurd before (List.not_lt_nil other)⟩
  · rename_i elsewhere
    obtain ⟨index, rest, rfl, has, before⟩ :=
      exists_first_of_firstAll? children found
    refine ⟨by rw [Tree.idAt?_cons, has], fun other earlier => ?_⟩
    cases other with
    | nil =>
        exact elsewhere
    | cons place below =>
        rw [Tree.idAt?_cons]
        exact before place below earlier

theorem exists_first_of_firstAll? (trees : List Tree) {id : String}
    {position : List Nat} (found : firstAll? id trees = some position) :
    ∃ index rest, position = index :: rest ∧
      idBelow? trees index rest = some id ∧
      ∀ place below, place :: below < index :: rest →
        idBelow? trees place below ≠ some id := by
  cases trees with
  | nil =>
      cases found
  | cons tree others =>
      rw [firstAll?] at found
      split at found
      · rename_i below foundHere
        obtain rfl := Option.some.inj found
        have isFirst := Tree.isFirst_of_first? tree foundHere
        refine ⟨0, below, rfl, isFirst.has, fun place other earlier => ?_⟩
        rcases List.cons_lt_cons_iff.mp earlier with smaller | ⟨rfl, before⟩
        · exact absurd smaller (Nat.not_lt_zero place)
        · exact isFirst.before other before
      · rename_i missing
        obtain ⟨later, foundLater, rfl⟩ := Option.map_eq_some_iff.mp found
        obtain ⟨index, rest, rfl, has, before⟩ :=
          exists_first_of_firstAll? others foundLater
        refine ⟨index + 1, rest, rfl, has, fun place other earlier => ?_⟩
        cases place with
        | zero =>
            exact Tree.idAt?_ne_of_first?_eq_none tree missing other
        | succ place =>
            refine before place other (List.cons_lt_cons_iff.mpr ?_)
            rcases List.cons_lt_cons_iff.mp earlier with smaller | ⟨same, less⟩
            · exact .inl (Nat.lt_of_succ_lt_succ smaller)
            · exact .inr ⟨Nat.succ.inj same, less⟩

end

namespace Tree

theorem IsFirst.first? {tree : Tree} {id : String} {position : List Nat}
    (isFirst : tree.IsFirst id position) : tree.first? id = some position := by
  cases found : tree.first? id with
  | none =>
      exact absurd isFirst.has (tree.idAt?_ne_of_first?_eq_none found position)
  | some first =>
      rw [(tree.isFirst_of_first? found).unique isFirst]

/-- What is found by an id is found there as long as no node up to it changes
its id. -/
theorem first?_of_idAt?_eq {tree other : Tree} {id : String}
    {position : List Nat} (first : tree.first? id = some position)
    (same : ∀ place ≤ position, other.idAt? place = tree.idAt? place) :
    other.first? id = some position := by
  have isFirst := tree.isFirst_of_first? first
  refine IsFirst.first? ⟨?_, fun place earlier => ?_⟩
  · rw [same position le_rfl, isFirst.has]
  · rw [same place earlier.le]
    exact isFirst.before place earlier

/-- Where an id is found depends on the ids of the nodes alone. -/
theorem first?_congr {tree other : Tree}
    (same : ∀ position, tree.idAt? position = other.idAt? position)
    (id : String) : tree.first? id = other.first? id := by
  cases found : other.first? id with
  | none =>
      cases foundHere : tree.first? id with
      | none =>
          rfl
      | some position =>
          have has := (tree.isFirst_of_first? foundHere).has
          rw [same] at has
          exact absurd has (other.idAt?_ne_of_first?_eq_none found position)
  | some position =>
      exact first?_of_idAt?_eq found fun place _ => same place

/-- An id that some node has leads to one. -/
theorem exists_first?_of_idAt? {tree : Tree} {id : String}
    {position : List Nat} (has : tree.idAt? position = some id) :
    ∃ first, tree.first? id = some first := by
  cases found : tree.first? id with
  | none =>
      exact absurd has (tree.idAt?_ne_of_first?_eq_none found position)
  | some first =>
      exact ⟨first, rfl⟩

/-- No node is found by two ids. -/
theorem eq_of_first?_eq {tree : Tree} {id other : String}
    {position : List Nat} (first : tree.first? id = some position)
    (firstOther : tree.first? other = some position) : id = other := by
  have has := (tree.isFirst_of_first? first).has
  rw [(tree.isFirst_of_first? firstOther).has] at has
  exact (Option.some.inj has).symm

/-- An element has the id that it is found by. -/
theorem exists_element_of_idAt? {tree : Tree} {id : String}
    {position : List Nat} (has : tree.idAt? position = some id) :
    ∃ element, tree.contentAt? position = some (.element element) ∧
      element.attribute? "id" = some id := by
  obtain ⟨content, there, named⟩ := Option.bind_eq_some_iff.mp has
  cases content with
  | element element =>
      exact ⟨element, there, named⟩
  | _ =>
      cases named

end Tree

end KeymapViewer.Markup
