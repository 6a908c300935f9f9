import Mathlib.Data.List.Infix
import Mathlib.Data.List.Induction
import Mathlib.Order.Bounds.Basic
import Mathlib.Order.MinMax

/-!
Sizes that grow by need. Where every step leaves a size as it was, or makes it
as large as what is held after the step, a run leaves it as large as the most
that was held on its way.
-/

namespace KeymapViewer

variable {σ α : Type} {step : σ → α → σ} {start : σ}

/-- The amounts that are held on the way of a run. -/
def amounts (step : σ → α → σ) (start : σ) (count : σ → Nat)
    (items : List α) : Set Nat :=
  {amount | ∃ earlier, earlier <+: items ∧
    amount = count (earlier.foldl step start)}

theorem isGreatest_amounts {size count : σ → Nat}
    (full : size start = count start) (items : List α)
    (grows : ∀ earlier item, earlier ++ [item] <+: items →
      size (step (earlier.foldl step start) item) =
        max (size (earlier.foldl step start))
          (count (step (earlier.foldl step start) item))) :
    IsGreatest (amounts step start count items)
      (size (items.foldl step start)) := by
  -- The last step leaves either the size there was, or what it needs itself.
  induction items using List.reverseRecOn with
  | nil =>
      refine ⟨⟨[], List.prefix_refl _, full⟩, ?_⟩
      rintro amount ⟨earlier, isPrefix, rfl⟩
      rw [List.prefix_nil.mp isPrefix]
      exact full.ge
  | append_singleton earlier item inductionHypothesis =>
      have last :
          (earlier ++ [item]).foldl step start =
            step (earlier.foldl step start) item :=
        List.foldl_append ..
      obtain ⟨⟨peak, isPrefix, reached⟩, bound⟩ :=
        inductionHypothesis fun before next isNext =>
          grows before next (isNext.trans (List.prefix_append ..))
      rw [last, grows earlier item (List.prefix_refl _)]
      constructor
      · rcases max_choice (size (earlier.foldl step start))
          (count (step (earlier.foldl step start) item)) with before | now
        · exact ⟨peak, isPrefix.trans (List.prefix_append ..),
            before.trans reached⟩
        · exact ⟨earlier ++ [item], List.prefix_refl _, by rw [now, last]⟩
      · rintro amount ⟨part, isPart, rfl⟩
        rcases List.prefix_concat_iff.mp isPart with whole | shorter
        · rw [whole, last]
          exact le_max_right ..
        · exact (bound ⟨part, shorter, rfl⟩).trans (le_max_left ..)

end KeymapViewer
