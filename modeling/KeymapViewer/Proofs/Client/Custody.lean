import KeymapViewer.Proofs.Client.Request
import KeymapViewer.Proofs.Exchange.Custody

/-!
Every render gives back what it was given. The calls that a render makes take
one of a few shapes, one for each way in which it can end, and in all of them
each block is freed once; so the ledger is empty between requests.
-/

namespace KeymapViewer

open Text Wasm Exchange GuestCall

namespace Client

variable {σ : Type} [Renderer σ]

/-! ## The calls of a render -/

/-- The calls of a render that needs one block. -/
inductive OneBlock (size : UInt32) : List GuestCall → Prop
  | idle : OneBlock size []
  | refused : OneBlock size [.alloc size none]
  | spoiled (pointer : UInt32) :
      OneBlock size [.alloc size (some pointer), .dealloc pointer size]
  | used (pointer : UInt32) (arguments : List UInt32)
      (taken : Option UInt32) :
      OneBlock size
        ([.alloc size (some pointer), .enter arguments,
          .dealloc pointer size] ++ taken.toList.map .deallocText)

/-- The calls of a render that needs two blocks. -/
inductive TwoBlocks (first second : UInt32) : List GuestCall → Prop
  | idle : TwoBlocks first second []
  | refused : TwoBlocks first second [.alloc first none]
  | spoiled (pointer : UInt32) :
      TwoBlocks first second
        [.alloc first (some pointer), .dealloc pointer first]
  | secondRefused (pointer : UInt32) :
      TwoBlocks first second
        [.alloc first (some pointer), .alloc second none,
          .dealloc pointer first]
  | secondInUse (pointer : UInt32) :
      TwoBlocks first second
        [.alloc first (some pointer), .alloc second (some pointer),
          .dealloc pointer first]
  | secondSpoiled (pointer other : UInt32) (differs : other ≠ pointer) :
      TwoBlocks first second
        [.alloc first (some pointer), .alloc second (some other),
          .dealloc other second, .dealloc pointer first]
  | used (pointer other : UInt32) (differs : other ≠ pointer)
      (arguments : List UInt32) :
      TwoBlocks first second
        [.alloc first (some pointer), .alloc second (some other),
          .enter arguments, .dealloc pointer first, .dealloc other second]

theorem OneBlock.givesBack {size : UInt32} {calls : List GuestCall}
    (shape : OneBlock size calls) : GivesBack [] calls := by
  cases shape with
  | idle =>
      trivial
  | refused =>
      simp [GivesBack]
  | spoiled pointer =>
      simp [GivesBack, FreedOnce, hold, frees]
  | used pointer arguments taken =>
      cases taken with
      | none =>
          simp [GivesBack, FreedOnce, hold, frees]
      | some text =>
          simp [GivesBack, FreedOnce, hold, frees]

theorem TwoBlocks.givesBack {first second : UInt32} {calls : List GuestCall}
    (shape : TwoBlocks first second calls) : GivesBack [] calls := by
  cases shape with
  | idle =>
      trivial
  | refused =>
      simp [GivesBack]
  | spoiled pointer =>
      simp [GivesBack, FreedOnce, hold, frees]
  | secondRefused pointer =>
      simp [GivesBack, FreedOnce, hold, frees]
  | secondInUse pointer =>
      simp [GivesBack, FreedOnce, hold, frees]
  | secondSpoiled pointer other differs =>
      simp [GivesBack, FreedOnce, hold, frees, differs, Ne.symm differs]
  | used pointer other differs arguments =>
      simp [GivesBack, FreedOnce, hold, frees, differs, Ne.symm differs]

/-- The sizes asked for are those of the blocks, up to where it ends. -/
theorem OneBlock.requested {size : UInt32} {calls : List GuestCall}
    (shape : OneBlock size calls) :
    calls.filterMap request? <+: [size.toNat] := by
  cases shape with
  | idle =>
      exact List.nil_prefix
  | refused =>
      exact List.prefix_refl _
  | spoiled pointer =>
      exact List.prefix_refl _
  | used pointer arguments taken =>
      cases taken with
      | none =>
          exact List.prefix_refl _
      | some text =>
          exact List.prefix_refl _

theorem TwoBlocks.requested {first second : UInt32} {calls : List GuestCall}
    (shape : TwoBlocks first second calls) :
    calls.filterMap request? <+: [first.toNat, second.toNat] := by
  cases shape with
  | idle =>
      exact List.nil_prefix
  | refused =>
      exact List.prefix_append [first.toNat] [second.toNat]
  | spoiled pointer =>
      exact List.prefix_append [first.toNat] [second.toNat]
  | secondRefused pointer =>
      exact List.prefix_refl _
  | secondInUse pointer =>
      exact List.prefix_refl _
  | secondSpoiled pointer other differs =>
      exact List.prefix_refl _
  | used pointer other differs arguments =>
      exact List.prefix_refl _

/-! ## The outcomes of a render -/

omit [Renderer σ] in
/-- Giving back the only block there is leaves the ledger empty. -/
theorem release_only [Guest σ]
    {string : GuestString} {ledger : Ledger}
    (only : ledger.live = [(string.pointer, string.capacity)])
    (guest : σ) (calls : List GuestCall) :
    ∃ result after left,
      (release string).perform ledger (⟨guest, calls⟩ : Recorded σ) =
        (result, after,
          ⟨left, calls ++ [.dealloc string.pointer string.capacity]⟩) ∧
      after.live = [] := by
  have known : ledger.capacity? string.pointer = some string.capacity := by
    simp [Ledger.capacity?, only]
  obtain ⟨result, after, left, performed, live⟩ :=
    Recorded.release_outcome known guest calls
  refine ⟨result, after, left, performed, ?_⟩
  rw [live]
  simp [Ledger.forget, only]

omit [Renderer σ] in
/-- A render that gives up gives its only block back first. -/
theorem giveUp_outcome [Guest σ] (α : Type)
    {string : GuestString} {ledger : Ledger}
    (only : ledger.live = [(string.pointer, string.capacity)])
    (fault : Fault) (guest : σ) (calls : List GuestCall) :
    ∃ told after left,
      ((release string >>= fun _ => throw fault) :
          Exchange (Recorded σ) α).perform ledger ⟨guest, calls⟩ =
        (.error told, after,
          ⟨left, calls ++ [.dealloc string.pointer string.capacity]⟩) ∧
      after.live = [] := by
  obtain ⟨result, after, left, performed, live⟩ :=
    release_only only guest calls
  simp only [perform_bind, performed, perform_throw]
  cases result with
  | error second =>
      exact ⟨second, after, left, rfl, live⟩
  | ok value =>
      exact ⟨fault, after, left, rfl, live⟩

/-- Two strings are both given back, even if the first call fails. -/
theorem releaseAll_outcome
    {first second : GuestString} {ledger : Ledger}
    (both : ledger.live = [(second.pointer, second.capacity),
      (first.pointer, first.capacity)])
    (differs : second.pointer ≠ first.pointer)
    (guest : σ) (calls : List GuestCall) :
    ∃ result after left,
      (releaseAll [first, second]).perform ledger
          (⟨guest, calls⟩ : Recorded σ) =
        (result, after,
          ⟨left, calls ++ [.dealloc first.pointer first.capacity,
            .dealloc second.pointer second.capacity]⟩) ∧
      after.live = [] := by
  have other : (first.pointer == second.pointer) = false :=
    beq_eq_false_iff_ne.mpr (Ne.symm differs)
  have known : ledger.capacity? first.pointer = some first.capacity := by
    simp [Ledger.capacity?, both, List.lookup_cons, other]
  obtain ⟨firstResult, between, leftBetween, performedFirst, liveBetween⟩ :=
    Recorded.release_outcome known guest calls
  have only :
      between.live = [(second.pointer, second.capacity)] := by
    rw [liveBetween]
    simp [Ledger.forget, both, differs]
  obtain ⟨secondResult, after, left, performedSecond, live⟩ :=
    release_only only leftBetween
      (calls ++ [.dealloc first.pointer first.capacity])
  simp only [releaseAll, perform_bind, perform_attempt, performedFirst,
    performedSecond, perform_ofResult, perform_pure, List.append_assoc,
    List.cons_append, List.nil_append]
  cases firstResult with
  | error fault =>
      cases secondResult with
      | error other =>
          exact ⟨_, after, left, rfl, live⟩
      | ok value =>
          exact ⟨_, after, left, rfl, live⟩
  | ok value =>
      cases secondResult with
      | error other =>
          exact ⟨_, after, left, rfl, live⟩
      | ok value =>
          exact ⟨_, after, left, rfl, live⟩

theorem renderText_outcome
    (entry text : String) {ledger : Ledger} (clean : ledger.live = [])
    (guest : σ) :
    ∃ result after left calls,
      (renderText entry text).perform ledger (⟨guest, []⟩ : Recorded σ) =
        (result, after, ⟨left, calls⟩) ∧
      after.live = [] ∧ OneBlock (blockSize text) calls := by
  have outcome := Recorded.writeString_outcome text .nul ledger
    (Renderer.beginCall guest) []
  simp only [renderText, perform_bind, perform_beginCall,
    Recorded.beginCall_mk]
  generalize
    (writeString text .nul).perform ledger
      (⟨Renderer.beginCall guest, []⟩ : Recorded σ) = written at outcome ⊢
  cases outcome with
  | tooLong fault left =>
      exact ⟨_, ledger, left, _, rfl, clean, .idle⟩
  | refused fault left =>
      exact ⟨_, ledger, left, _, rfl, clean, .refused⟩
  | inUse fault left pointer held =>
      simp [Ledger.pointers, clean] at held
  | spoiled fault left pointer fresh =>
      exact ⟨_, ledger, left, _, rfl, clean, .spoiled pointer⟩
  | written string filled fresh sized =>
      have only :
          (ledger.record string.pointer string.capacity).live =
            [(string.pointer, string.capacity)] := by
        simp [Ledger.record, clean]
      simp only [perform_callEntry, Recorded.run_enter, perform_attempt,
        List.nil_append, List.cons_append]
      obtain ⟨released, after, freed, performed, live⟩ :=
        release_only only
          ((Renderer.enter [string.pointer]).run filled).2
          [.alloc (blockSize text) (some string.pointer),
            .enter [string.pointer]]
      simp only [performed]
      -- The input is back by now. Only a text that the function hands over
      -- can add one more call.
      cases ((Renderer.enter [string.pointer]).run filled).1 with
      | trap reason =>
          simp only [perform_failEntry, Recorded.run_takeCause]
          refine ⟨_, after, _, _, rfl, live, ?_⟩
          rw [sized]
          exact .used string.pointer [string.pointer] none
      | done results =>
          simp only [perform_ite, perform_bind, perform_ofResult,
            perform_throw, perform_attempt]
          generalize (results.head?.map Host.word).getD 0 = output
          by_cases null : output = 0
          · simp only [null, ↓reduceIte]
            cases released with
            | error fault =>
                refine ⟨_, after, freed, _, rfl, live, ?_⟩
                rw [sized]
                exact .used string.pointer [string.pointer] none
            | ok value =>
                refine ⟨_, after, freed, _, rfl, live, ?_⟩
                rw [sized]
                exact .used string.pointer [string.pointer] none
          · simp only [null, ↓reduceIte]
            obtain ⟨markup, taken, left, made, performedTake, liveTaken,
                madeCases⟩ :=
              Recorded.takeCString_outcome output after freed
                ([.alloc (blockSize text) (some string.pointer),
                    .enter [string.pointer]] ++
                  [.dealloc string.pointer string.capacity])
            rw [live] at liveTaken
            have shape :
                OneBlock (blockSize text)
                  (([.alloc (blockSize text) (some string.pointer),
                      .enter [string.pointer]] ++
                    [.dealloc string.pointer string.capacity]) ++ made) := by
              rw [sized]
              rcases madeCases with rfl | rfl
              · exact .used string.pointer [string.pointer] none
              · exact .used string.pointer [string.pointer] (some output)
            simp only [performedTake]
            cases released with
            | error fault =>
                exact ⟨_, taken, left, _, rfl, liveTaken, shape⟩
            | ok value =>
                exact ⟨_, taken, left, _, rfl, liveTaken, shape⟩

/-- What copying a second string leads to: the first one has gone back, or
both are in the ledger. -/
inductive SecondOutcome (first : GuestString) (size : UInt32) :
    Except Fault GuestString × Ledger × Recorded σ → Prop
  | givenUp (fault : Fault) (after : Ledger) (guest : σ)
      (calls : List GuestCall) (empty : after.live = [])
      (shape : TwoBlocks first.capacity size calls) :
      SecondOutcome first size (.error fault, after, ⟨guest, calls⟩)
  | written (second : GuestString) (after : Ledger) (guest : σ)
      (differs : second.pointer ≠ first.pointer)
      (sized : second.capacity = size)
      (both : after.live = [(second.pointer, second.capacity),
        (first.pointer, first.capacity)]) :
      SecondOutcome first size
        (.ok second, after,
          ⟨guest, [.alloc first.capacity (some first.pointer),
            .alloc size (some second.pointer)]⟩)

omit [Renderer σ] in
theorem writeSecond_outcome [Guest σ]
    (text : String) {first : GuestString} {ledger : Ledger}
    (only : ledger.live = [(first.pointer, first.capacity)])
    (guest : σ) :
    SecondOutcome first (blockSize text)
      ((tryCatch (writeString text .none) fun fault =>
          release first >>= fun _ => throw fault).perform ledger
        (⟨guest, [.alloc first.capacity (some first.pointer)]⟩ :
          Recorded σ)) := by
  have outcome := Recorded.writeString_outcome text .none ledger guest
    [.alloc first.capacity (some first.pointer)]
  rw [perform_tryCatch]
  generalize
    (writeString text .none).perform ledger
      (⟨guest, [.alloc first.capacity (some first.pointer)]⟩ :
        Recorded σ) = written at outcome ⊢
  -- The ledger holds the first string only, so its pointer decides whether
  -- the second block is in use.
  cases outcome with
  | tooLong fault left =>
      obtain ⟨told, after, freed, performed, live⟩ :=
        giveUp_outcome GuestString only fault left
          [.alloc first.capacity (some first.pointer)]
      simp only [performed]
      exact .givenUp told after freed _ live (.spoiled first.pointer)
  | refused fault left =>
      obtain ⟨told, after, freed, performed, live⟩ :=
        giveUp_outcome GuestString only fault left
          ([.alloc first.capacity (some first.pointer)] ++
            [.alloc (blockSize text) none])
      simp only [performed]
      exact .givenUp told after freed _ live
        (.secondRefused first.pointer)
  | inUse fault left pointer held =>
      have same : pointer = first.pointer := by
        simpa [Ledger.pointers, only] using held
      obtain ⟨told, after, freed, performed, live⟩ :=
        giveUp_outcome GuestString only fault left
          ([.alloc first.capacity (some first.pointer)] ++
            [.alloc (blockSize text) (some pointer)])
      simp only [performed]
      rw [same]
      exact .givenUp told after freed _ live
        (.secondInUse first.pointer)
  | spoiled fault left pointer fresh =>
      have differs : pointer ≠ first.pointer := by
        simpa [Ledger.pointers, only] using fresh
      obtain ⟨told, after, freed, performed, live⟩ :=
        giveUp_outcome GuestString only fault left
          ([.alloc first.capacity (some first.pointer)] ++
            [.alloc (blockSize text) (some pointer),
              .dealloc pointer (blockSize text)])
      simp only [performed]
      exact .givenUp told after freed _ live
        (.secondSpoiled first.pointer pointer differs)
  | written second placed fresh sized =>
      have differs : second.pointer ≠ first.pointer := by
        simpa [Ledger.pointers, only] using fresh
      have both :
          (ledger.record second.pointer second.capacity).live =
            [(second.pointer, second.capacity),
              (first.pointer, first.capacity)] := by
        simp [Ledger.record, only]
      exact .written second _ placed differs sized both

theorem renderElement_outcome
    (entry text id : String) {ledger : Ledger} (clean : ledger.live = [])
    (guest : σ) :
    ∃ result after left calls,
      (renderElement entry text id).perform ledger
          (⟨guest, []⟩ : Recorded σ) =
        (result, after, ⟨left, calls⟩) ∧
      after.live = [] ∧
      TwoBlocks (blockSize text) (blockSize id) calls := by
  have outcome := Recorded.writeString_outcome text .none ledger
    (Renderer.beginCall guest) []
  simp only [renderElement, perform_bind, perform_beginCall,
    Recorded.beginCall_mk]
  generalize
    (writeString text .none).perform ledger
      (⟨Renderer.beginCall guest, []⟩ : Recorded σ) = written at outcome ⊢
  cases outcome with
  | tooLong fault left =>
      exact ⟨_, ledger, left, _, rfl, clean, .idle⟩
  | refused fault left =>
      exact ⟨_, ledger, left, _, rfl, clean, .refused⟩
  | inUse fault left pointer held =>
      simp [Ledger.pointers, clean] at held
  | spoiled fault left pointer fresh =>
      exact ⟨_, ledger, left, _, rfl, clean, .spoiled pointer⟩
  | written contents filled fresh sized =>
      have only :
          (ledger.record contents.pointer contents.capacity).live =
            [(contents.pointer, contents.capacity)] := by
        simp [Ledger.record, clean]
      have second := writeSecond_outcome id only filled
      rw [sized] at second
      simp only [List.nil_append]
      rw [sized]
      generalize
        (tryCatch (writeString id .none) fun fault =>
            release contents >>= fun _ => throw fault).perform
          (ledger.record contents.pointer (blockSize text))
          (⟨filled, [.alloc (blockSize text) (some contents.pointer)]⟩ :
            Recorded σ) = writtenId at second ⊢
      cases second with
      | givenUp fault after left calls empty shape =>
          rw [sized] at shape
          exact ⟨_, after, left, calls, rfl, empty, shape⟩
      | written target after placed differs sizedId both =>
          simp only [perform_callEntry, Recorded.run_enter, perform_attempt]
          generalize
            (Renderer.enter [contents.pointer, contents.length,
              target.pointer, target.length]).run placed = entered
          obtain ⟨released, last, freed, performed, live⟩ :=
            releaseAll_outcome both differs entered.2
              ([.alloc contents.capacity (some contents.pointer),
                  .alloc (blockSize id) (some target.pointer)] ++
                [.enter [contents.pointer, contents.length,
                  target.pointer, target.length]])
          simp only [performed]
          have shape :
              TwoBlocks (blockSize text) (blockSize id)
                [.alloc (blockSize text) (some contents.pointer),
                  .alloc (blockSize id) (some target.pointer),
                  .enter [contents.pointer, contents.length, target.pointer,
                    target.length],
                  .dealloc contents.pointer (blockSize text),
                  .dealloc target.pointer (blockSize id)] :=
            .used contents.pointer target.pointer differs _
          rw [sized, sizedId]
          -- Both strings are back by now, whether the function returned or
          -- not.
          cases entered.1 with
          | trap reason =>
              exact ⟨_, last, _, _, rfl, live, shape⟩
          | done results =>
              simp only [perform_ofResult]
              exact ⟨_, last, _, _, rfl, live, shape⟩

end Client

end KeymapViewer
