import KeymapViewer.Fault
import Mathlib.Data.List.Forall2

/-!
Steps that give a value or fail. Steps in a row give a value only when each of
them does, and fail with the first that fails.
-/

namespace KeymapViewer

variable {ε α β : Type}

theorem exists_of_bind_eq_ok {first : Except ε α} {next : α → Except ε β}
    {result : β} (done : first >>= next = .ok result) :
    ∃ value, first = .ok value ∧ next value = .ok result := by
  cases first with
  | error reason =>
      cases done
  | ok value =>
      exact ⟨value, rfl, done⟩

/-- A reason that is told in other words is a reason still. -/
theorem mapError_eq_ok_iff {γ : Type} {result : Except ε α} {describe : ε → γ}
    {value : α} : result.mapError describe = .ok value ↔ result = .ok value := by
  constructor
  · intro same
    cases result with
    | error reason =>
        cases same
    | ok found =>
        cases same
        rfl
  · rintro rfl
    rfl

/-! ## Steps on the items of a list -/

section List

variable {step : α → Except ε β} {items : List α}

theorem mapM_eq_ok_iff {results : List β} :
    items.mapM step = .ok results ↔
      List.Forall₂ (fun item result => step item = .ok result) items
        results := by
  induction items generalizing results with
  | nil =>
      rw [List.mapM_nil, List.forall₂_nil_left_iff]
      constructor
      · intro done
        exact (Except.ok.inj done).symm
      · rintro rfl
        rfl
  | cons item rest inductionHypothesis =>
      rw [List.mapM_cons]
      constructor
      · intro done
        obtain ⟨result, first, done⟩ := exists_of_bind_eq_ok done
        obtain ⟨others, later, done⟩ := exists_of_bind_eq_ok done
        obtain rfl := Except.ok.inj done
        exact .cons first (inductionHypothesis.mp later)
      · intro each
        cases each with
        | cons first later =>
            rw [first, inductionHypothesis.mpr later]
            rfl

theorem exists_of_mapM_eq_error {reason : ε}
    (failed : items.mapM step = .error reason) :
    ∃ before item after, items = before ++ item :: after ∧
      (∀ earlier ∈ before, ∃ result, step earlier = .ok result) ∧
      step item = .error reason := by
  induction items with
  | nil =>
      cases failed
  | cons item rest inductionHypothesis =>
      rw [List.mapM_cons] at failed
      cases first : step item with
      | error reasonFirst =>
          rw [first] at failed
          cases failed
          exact ⟨[], item, rest, rfl, List.forall_mem_nil _, first⟩
      | ok result =>
          rw [first] at failed
          cases later : rest.mapM step with
          | ok others =>
              rw [later] at failed
              cases failed
          | error reasonLater =>
              rw [later] at failed
              cases failed
              obtain ⟨before, other, after, rfl, good, bad⟩ :=
                inductionHypothesis later
              refine ⟨item :: before, other, after, rfl, ?_, bad⟩
              exact List.forall_mem_cons.mpr ⟨⟨result, first⟩, good⟩

theorem exists_mapM_eq_ok_iff :
    (∃ results, items.mapM step = .ok results) ↔
      ∀ item ∈ items, ∃ result, step item = .ok result := by
  constructor
  · rintro ⟨results, done⟩
    induction mapM_eq_ok_iff.mp done with
    | nil =>
        exact List.forall_mem_nil _
    | cons first later inductionHypothesis =>
        exact List.forall_mem_cons.mpr
          ⟨⟨_, first⟩, inductionHypothesis (mapM_eq_ok_iff.mpr later)⟩
  · intro good
    cases done : items.mapM step with
    | ok results =>
        exact ⟨results, rfl⟩
    | error reason =>
        obtain ⟨before, item, after, rfl, -, bad⟩ :=
          exists_of_mapM_eq_error done
        obtain ⟨result, here⟩ := good item List.mem_append_cons_self
        rw [here] at bad
        cases bad

end List

end KeymapViewer
