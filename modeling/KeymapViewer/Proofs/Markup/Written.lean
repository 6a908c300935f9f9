import KeymapViewer.Proofs.Markup.Tidy

/-!
The tokens that a forest is written as. A builder that is given these tokens
makes the forest again, whatever it holds already.
-/

namespace KeymapViewer.Markup

open Text

mutual

def Tree.written : Tree → List Token
  | .node .document children => writtenAll children
  | .node (.element element) children =>
    .startTag element.tag element.attributes element.selfClosing ::
      if element.isAlone then []
      else writtenAll children ++ [.endTag element.tag]
  | .node (.text text) _ => [.text text]
  | .node (.comment text) _ => [.comment text]
  | .node (.declaration text) _ => [.declaration text]

def writtenAll : List Tree → List Token
  | [] => []
  | tree :: rest => tree.written ++ writtenAll rest

end

@[simp]
theorem writtenAll_append (first second : List Tree) :
    writtenAll (first ++ second) = writtenAll first ++ writtenAll second := by
  induction first with
  | nil =>
      rfl
  | cons tree rest inductionHypothesis =>
      rw [List.cons_append, writtenAll, inductionHypothesis, writtenAll,
        List.append_assoc]

theorem sameName_refl (name : String) : sameName name name = true :=
  beq_self_eq_true _

mutual

theorem foldl_written (tree : Tree) (tidy : tree.Tidy) (builder : Builder) :
    tree.written.foldl Builder.add builder = builder.push tree := by
  cases tree with
  | node content children =>
      cases content with
      | document =>
          exact tidy.elim
      | element element =>
          obtain ⟨-, childless, below⟩ := tidy
          have same :
              (element.selfClosing || isVoid element.tag) =
                element.isAlone :=
            rfl
          rw [Tree.written, List.foldl_cons, Builder.add, same]
          by_cases alone : element.isAlone = true
          · have none_ := childless alone
            subst none_
            rw [if_pos alone, if_pos alone]
            rfl
          · have inner := foldl_writtenAll children below
              ⟨[], ⟨element, builder.finished⟩ :: builder.opened⟩
            rw [if_neg alone, if_neg alone, List.foldl_append]
            change Builder.add (List.foldl Builder.add
              ⟨[], ⟨element, builder.finished⟩ :: builder.opened⟩
              (writtenAll children)) (.endTag element.tag) = _
            rw [inner, Builder.add, Builder.closeThrough?,
              if_pos (sameName_refl element.tag)]
            simp [Builder.push]
      | text text =>
          rw [tidy.2]
          rfl
      | comment text =>
          rw [tidy.2]
          rfl
      | declaration text =>
          rw [tidy.2.2]
          rfl

theorem foldl_writtenAll (forest : List Tree) (tidy : TidyAll forest)
    (builder : Builder) :
    (writtenAll forest).foldl Builder.add builder =
      ⟨forest.reverse ++ builder.finished, builder.opened⟩ := by
  cases forest with
  | nil =>
      rfl
  | cons tree rest =>
      rw [writtenAll, List.foldl_append, foldl_written tree tidy.1,
        foldl_writtenAll rest tidy.2]
      simp [Builder.push]

end

/-- The tokens of a forest are read as that forest. -/
theorem ofTokens_writtenAll {forest : Forest} (tidy : TidyAll forest) :
    Forest.ofTokens (writtenAll forest) = forest := by
  unfold Forest.ofTokens
  rw [foldl_writtenAll forest tidy]
  simp [Builder.empty, Builder.finish, Builder.closeAll]

end KeymapViewer.Markup
