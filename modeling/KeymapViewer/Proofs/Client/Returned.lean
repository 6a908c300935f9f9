import KeymapViewer.Proofs.Stub.Borrow

/-!
Texts that a render function returns. The input has gone back to the guest
before the output is taken over, so the ledger no longer knows its pointer: a
function that returns its own input has it freed twice.
-/

namespace KeymapViewer

open Text Wasm Exchange

namespace GuestCall

/-- The block at a pointer goes back to the allocator, and then the same
pointer is freed as a text, though the allocator has not handed it out in
between. -/
def FreedTwice (pointer : UInt32) (calls : List GuestCall) : Prop :=
  ∃ before size between after,
    calls = before ++ .dealloc pointer size ::
      (between ++ .deallocText pointer :: after) ∧
    ∀ asked, .alloc asked (some pointer) ∉ between

theorem FreedTwice.mem {pointer : UInt32} {calls : List GuestCall}
    (twice : FreedTwice pointer calls) :
    (∃ size, .dealloc pointer size ∈ calls) ∧ .deallocText pointer ∈ calls := by
  obtain ⟨before, size, between, after, rfl, -⟩ := twice
  exact ⟨⟨size, by simp⟩, by simp⟩

end GuestCall

open GuestCall

namespace Client

variable {σ : Type}

/-- The pointer that a call of a render function returns. -/
def returned (results : List Value) : UInt32 :=
  (results.head?.map Host.word).getD 0

section Rendering

variable [Renderer σ]

/-- The render function returns the pointer of its input, and when the input
has gone back a text can still be read there. -/
structure ReturnsInput (client : Client σ) (text : String)
    (input : GuestString) (left : σ) (markup : String) : Prop where
  called : ∃ placed results,
    client.placing (.markup text) = (.ok [input], placed) ∧
      placed.entered [input] = (.done results, left) ∧
      returned results = input.pointer
  notNull : input.pointer ≠ 0
  readable :
    (Guest.memory (giveBack [input] left)).readCText input.pointer =
      .ok markup

/-! ## Renders whose function returns -/

theorem perform_renderText_of_null
    (entry : String) {text : String} {ledger after last : Ledger}
    {guest filled left freed : σ} {input : GuestString}
    {results : List Value} {released : Except Fault Unit}
    (written :
      (writeString text .nul).perform ledger (Renderer.beginCall guest) =
        (.ok input, after, filled))
    (done : (Renderer.enter [input.pointer]).run filled =
      (.done results, left))
    (gone : (release input).perform after left = (released, last, freed))
    (null : returned results = 0) :
    (renderText entry text).perform ledger guest =
      (released >>= fun () => .error (EntryFault.nullPointer entry).fault,
        last, freed) := by
  rw [returned] at null
  simp only [renderText, perform_bind, perform_beginCall, written,
    perform_callEntry, done, perform_attempt, gone, null,
    ↓reduceIte, perform_ofResult, perform_throw]
  cases released with
  | error fault =>
      rfl
  | ok value =>
      rfl

/-- The output is taken over whatever giving the input back has come to. -/
theorem perform_renderText_of_done
    (entry : String) {text : String} {ledger after last : Ledger}
    {guest filled left freed : σ} {input : GuestString}
    {results : List Value} {released : Except Fault Unit}
    (written :
      (writeString text .nul).perform ledger (Renderer.beginCall guest) =
        (.ok input, after, filled))
    (done : (Renderer.enter [input.pointer]).run filled =
      (.done results, left))
    (gone : (release input).perform after left = (released, last, freed))
    (notNull : returned results ≠ 0) :
    (renderText entry text).perform ledger guest =
      (released >>= fun () =>
          ((takeCString (returned results)).perform last freed).1,
        ((takeCString (returned results)).perform last freed).2) := by
  rw [returned] at notNull
  simp only [renderText, perform_bind, perform_beginCall, written,
    perform_callEntry, done, perform_attempt, gone, notNull,
    ↓reduceIte, perform_ofResult, returned]
  cases released with
  | error fault =>
      rfl
  | ok value =>
      rfl

/-- The text at a pointer that the host does not hold is freed if it can be
read. -/
theorem perform_takeCString_of_empty
    {ledger : Ledger} (empty : ledger.live = []) (pointer : UInt32)
    (guest : σ) :
    ((takeCString pointer).perform ledger guest).1 =
        ((Guest.memory guest).readCText pointer).mapError SpanFault.fault >>=
          (fun text =>
            (((Guest.deallocText pointer).run.run guest).1.mapError
              (·.withDetail .pointer (toString pointer))).map
                fun () => text) ∧
      ((takeCString pointer).perform ledger guest).2.2 =
        match (Guest.memory guest).readCText pointer with
        | .error _ => guest
        | .ok _ => ((Guest.deallocText pointer).run.run guest).2 := by
  have free : ledger.holds pointer = false := by
    simp [Ledger.holds, Ledger.capacity?, empty]
  simp only [perform_takeCString, free, Bool.false_eq_true, ↓reduceIte]
  rcases (Guest.memory guest).readCText pointer with reason | text
  · exact ⟨rfl, rfl⟩
  rcases (Guest.deallocText pointer).run.run guest with
    ⟨fault | freed, left⟩
  · exact ⟨rfl, rfl⟩
  · exact ⟨rfl, rfl⟩

/-! ## The calls of a render -/

/-- A recorded guest shows the one call that placing a text takes. -/
theorem perform_writeString_recorded
    {text : String} {ledger after : Ledger} {guest filled : σ}
    {input : GuestString}
    (written : (writeString text .nul).perform ledger guest =
      (.ok input, after, filled)) :
    (writeString text .nul).perform ledger (⟨guest, []⟩ : Recorded σ) =
      (.ok input, after,
        ⟨filled, [.alloc input.capacity (some input.pointer)]⟩) := by
  obtain ⟨made, same⟩ :=
    Recorded.Mirrors.writeString text .nul ledger guest []
  have outcome := Recorded.writeString_outcome text .nul ledger guest []
  rw [same, written] at outcome ⊢
  generalize shown :
    ((.ok input, after, ⟨filled, [] ++ made⟩) :
      Except Fault GuestString × Ledger × Recorded σ) = recorded at outcome ⊢
  cases outcome with
  | tooLong | refused | inUse | spoiled =>
      cases shown
  | written string guest fresh sized =>
      cases shown
      rw [sized, List.nil_append]

/-- A text that cannot be placed does not reach the function. -/
theorem deallocText_notMem_of_error
    {text : String} {ledger after : Ledger} {guest left : σ} {fault : Fault}
    (failed : (writeString text .nul).perform ledger guest =
      (.error fault, after, left)) :
    ∃ calls,
      (writeString text .nul).perform ledger (⟨guest, []⟩ : Recorded σ) =
        (.error fault, after, ⟨left, calls⟩) ∧
      ∀ pointer, .deallocText pointer ∉ calls := by
  obtain ⟨made, same⟩ :=
    Recorded.Mirrors.writeString text .nul ledger guest []
  have outcome := Recorded.writeString_outcome text .nul ledger guest []
  rw [same, failed] at outcome ⊢
  refine ⟨made, rfl, fun pointer => ?_⟩
  generalize shown :
    ((.error fault, after, ⟨left, [] ++ made⟩) :
      Except Fault GuestString × Ledger × Recorded σ) = recorded at outcome
  cases outcome with
  | written =>
      cases shown
  | tooLong | refused | inUse | spoiled =>
      cases shown
      simp

theorem calls_markup
    {client : Client σ} (abi : client.contract.abi = .cString)
    (text : String) :
    client.calls (.markup text) =
      ((renderText client.contract.entry text).perform client.ledger
        (⟨client.running, []⟩ : Recorded σ)).2.2.calls := by
  have sameAbi : client.record.contract.abi = .cString := abi
  simp only [calls, serve, renderMarkup, sameAbi]
  rfl

/-- What is known once the input of a render function is in place. -/
structure InputPlaced (client placed : Client σ) (text : String)
    (input : GuestString) : Prop where
  abi : client.contract.abi = .cString
  contract : placed.contract = client.contract
  written :
    (writeString text .nul).perform client.ledger
        (Renderer.beginCall client.running) =
      (.ok input, placed.ledger, placed.running)
  live : placed.ledger.live = [(input.pointer, input.capacity)]

theorem inputPlaced_of_placing
    {client placed : Client σ} (clean : client.ledger.live = [])
    {text : String} {input : GuestString}
    (placing : client.placing (.markup text) = (.ok [input], placed)) :
    InputPlaced client placed text input := by
  obtain ⟨same, place⟩ := placing_eq_ok placing
  cases place with
  | markup abi performed =>
      obtain ⟨string, alone, written⟩ := placeText_eq_ok performed
      cases alone
      refine ⟨abi, same, written, ?_⟩
      rw [(writeString_eq_ok written).1, Ledger.record, clean]

namespace InputPlaced

variable {client placed : Client σ} {text : String} {input : GuestString}

theorem enter (place : InputPlaced client placed text input)
    {outcome : Outcome} {left : σ}
    (entered : placed.entered [input] = (outcome, left)) :
    (Renderer.enter [input.pointer]).run placed.running = (outcome, left) := by
  rw [Client.entered, place.contract, place.abi] at entered
  exact entered

theorem release (place : InputPlaced client placed text input)
    {θ : Type} [Guest θ] (guest : θ) :
    ∃ last,
      (Exchange.release input).perform placed.ledger guest =
        (((Guest.dealloc input.pointer input.capacity).run.run guest).1,
          last,
          ((Guest.dealloc input.pointer input.capacity).run.run guest).2) ∧
      last.live = [] := by
  have known :
      placed.ledger.capacity? input.pointer = some input.capacity := by
    simp [Ledger.capacity?, place.live]
  obtain ⟨last, performed, live⟩ := perform_release_of_known known guest
  refine ⟨last, performed, ?_⟩
  rw [live]
  simp [Ledger.forget, place.live]

/-- The record of the calls up to the one that gives the input back. -/
def made (input : GuestString) : List GuestCall :=
  [.alloc input.capacity (some input.pointer), .enter [input.pointer],
    .dealloc input.pointer input.capacity]

/-- The steps of a render on the recorded guest, up to the one that gives the
input back. -/
theorem recorded (place : InputPlaced client placed text input)
    {outcome : Outcome} {left : σ}
    (entered : placed.entered [input] = (outcome, left)) :
    ∃ filled after released last,
      (writeString text .nul).perform client.ledger
          (Renderer.beginCall (⟨client.running, []⟩ : Recorded σ)) =
        (.ok input, placed.ledger, filled) ∧
      (Renderer.enter [input.pointer]).run filled = (outcome, after) ∧
      (Exchange.release input).perform placed.ledger after =
        (released, last, ⟨giveBack [input] left, made input⟩) ∧
      last.live = [] := by
  obtain ⟨last, gone, empty⟩ := place.release
    (⟨left, [.alloc input.capacity (some input.pointer),
      .enter [input.pointer]]⟩ : Recorded σ)
  rw [Recorded.run_dealloc] at gone
  refine ⟨_, _, _, last, perform_writeString_recorded place.written, ?_,
    gone, empty⟩
  rw [Recorded.run_enter, place.enter entered]
  rfl

end InputPlaced

theorem calls_markup_of_done
    {client placed : Client σ} (clean : client.ledger.live = [])
    {text : String} {input : GuestString}
    (placing : client.placing (.markup text) = (.ok [input], placed))
    {results : List Value} {left : σ}
    (done : placed.entered [input] = (.done results, left))
    (notNull : returned results ≠ 0) :
    client.calls (.markup text) =
      InputPlaced.made input ++
        match (Guest.memory (giveBack [input] left)).readCText
          (returned results) with
        | .ok _ => [.deallocText (returned results)]
        | .error _ => [] := by
  have place := inputPlaced_of_placing clean placing
  obtain ⟨filled, after, released, last, written, entered, gone, empty⟩ :=
    place.recorded done
  have memorySame :
      Guest.memory (⟨giveBack [input] left, InputPlaced.made input⟩ :
        Recorded σ) = Guest.memory (giveBack [input] left) := rfl
  rw [calls_markup place.abi, perform_renderText_of_done
    client.contract.entry written entered gone notNull]
  simp only [(perform_takeCString_of_empty empty _ _).2, memorySame]
  cases (Guest.memory (giveBack [input] left)).readCText
      (returned results) with
  | error reason =>
      exact (List.append_nil _).symm
  | ok markup =>
      rfl

/-- Only a function that has returned can have a text freed. -/
theorem exists_done_of_mem_calls
    {client : Client σ} (clean : client.ledger.live = [])
    {text : String} {pointer : UInt32}
    (freed : .deallocText pointer ∈ client.calls (.markup text)) :
    ∃ input placed results left,
      client.placing (.markup text) = (.ok [input], placed) ∧
        placed.entered [input] = (.done results, left) ∧
        returned results ≠ 0 := by
  have abi : client.contract.abi = .cString := by
    cases abi : client.record.contract.abi with
    | cString =>
        exact abi
    | bindgen =>
        simp only [calls, serve, renderMarkup, abi] at freed
        cases freed
  rw [calls_markup abi] at freed
  rcases written :
      (writeString text .nul).perform client.ledger
        (Renderer.beginCall client.running) with
    ⟨fault | input, after, filled⟩
  · obtain ⟨made, failed, notMem⟩ := deallocText_notMem_of_error written
    simp only [renderText, perform_bind, perform_beginCall,
      Recorded.beginCall_mk, failed] at freed
    exact absurd freed (notMem pointer)
  let placed : Client σ := { client with ledger := after, running := filled }
  have placing : client.placing (.markup text) = (.ok [input], placed) := by
    simp only [Client.placing, placingText, abi, Client.perform, placeText,
      perform_bind, perform_beginCall, written, perform_pure]
    rfl
  have place := inputPlaced_of_placing clean placing
  -- The calls up to here free no text, so it is freed by what comes after.
  have notMade : .deallocText pointer ∉ InputPlaced.made input := by
    simp [InputPlaced.made]
  rcases entered : placed.entered [input] with ⟨results | reason, left⟩
  all_goals
    obtain ⟨_, _, _, _, writtenRecorded, enteredRecorded, gone, _⟩ :=
      place.recorded entered
  · refine ⟨input, placed, results, left, placing, entered, fun null => ?_⟩
    rw [perform_renderText_of_null client.contract.entry writtenRecorded
      enteredRecorded gone null] at freed
    exact notMade freed
  · rw [perform_renderText_of_trap client.contract.entry writtenRecorded
      enteredRecorded gone] at freed
    exact absurd freed notMade

theorem serve_markup_of_done
    {client placed : Client σ} (clean : client.ledger.live = [])
    {text : String} {input : GuestString}
    (placing : client.placing (.markup text) = (.ok [input], placed))
    {results : List Value} {left : σ}
    (done : placed.entered [input] = (.done results, left))
    (notNull : returned results ≠ 0) {markup : String}
    (readable :
      (Guest.memory (giveBack [input] left)).readCText (returned results) =
        .ok markup) :
    (client.serve (.markup text)).1 = do
      ((Guest.dealloc input.pointer input.capacity).run.run left).1
      ((Guest.deallocText (returned results)).run.run
        (giveBack [input] left)).1.mapError
          (·.withDetail .pointer (toString (returned results)))
      return some markup := by
  have place := inputPlaced_of_placing clean placing
  obtain ⟨last, gone, empty⟩ := place.release left
  change _ = (_, last, giveBack [input] left) at gone
  have performed := perform_renderText_of_done client.contract.entry
    place.written (place.enter done) gone notNull
  rw [Prod.ext_iff] at performed
  simp only [(perform_takeCString_of_empty empty _ _).1, readable]
    at performed
  have served :
      (client.serve (.markup text)).1 =
        ((renderText client.contract.entry text).perform client.ledger
          client.running).1.map some := by
    simp only [serve, renderMarkup, place.abi]
    rfl
  rw [served, performed.1]
  cases ((Guest.dealloc input.pointer input.capacity).run.run left).1 with
  | error fault =>
      rfl
  | ok freed =>
      cases ((Guest.deallocText (returned results)).run.run
          (giveBack [input] left)).1 with
      | error fault =>
          rfl
      | ok freedText =>
          rfl

/-- A render frees a pointer twice exactly when its function returns its
input. -/
theorem freedTwice_iff_returnsInput
    {client : Client σ} (clean : client.ledger.live = []) (text : String) :
    (∃ pointer, FreedTwice pointer (client.calls (.markup text))) ↔
      ∃ input left markup, ReturnsInput client text input left markup := by
  constructor
  · rintro ⟨pointer, twice⟩
    obtain ⟨⟨size, givenBack⟩, freed⟩ := twice.mem
    obtain ⟨input, placed, results, left, placing, done, notNull⟩ :=
      exists_done_of_mem_calls clean freed
    rw [calls_markup_of_done clean placing done notNull] at givenBack freed
    have notMade : .deallocText pointer ∉ InputPlaced.made input := by
      simp [InputPlaced.made]
    cases readable : (Guest.memory (giveBack [input] left)).readCText
        (returned results) with
    | error reason =>
        simp only [readable, List.append_nil] at freed
        exact absurd freed notMade
    | ok markup =>
        have sameOutput : pointer = returned results := by
          simpa [readable, notMade] using freed
        have sameInput : pointer = input.pointer := by
          simpa [readable, InputPlaced.made] using
            (show pointer = input.pointer ∧ size = input.capacity by
              simpa [readable, InputPlaced.made] using givenBack).1
        refine ⟨input, left, markup,
          ⟨placed, results, placing, done, sameOutput.symm.trans sameInput⟩,
          ?_, ?_⟩
        · rw [← sameInput, sameOutput]
          exact notNull
        · rw [← sameInput, sameOutput]
          exact readable
  · rintro ⟨input, left, markup, ⟨placed, results, placing, done, same⟩,
      notNull, readable⟩
    refine ⟨input.pointer,
      [.alloc input.capacity (some input.pointer), .enter [input.pointer]],
      input.capacity, [], [], ?_, by simp⟩
    rw [calls_markup_of_done clean placing done (same ▸ notNull)]
    simp only [same, readable]
    rfl

/-! ## Runs of requests -/

/-- Whatever a guest has been asked for before, a render has a pointer freed
twice if and only if the guest returns the pointer of its input and a text
can be read there once the input has gone back. Then no rule of ownership is
reported: the answer is that text, unless one of the two calls fails. -/
theorem serveAll_freedTwice_iff
    {client : Client σ} (fresh : client.ledger = .empty)
    (earlier : List Request) (text : String) :
    let before := client.serveAll earlier
    ((∃ pointer, FreedTwice pointer (before.calls (.markup text))) ↔
        ∃ input left markup, ReturnsInput before text input left markup) ∧
      ∀ input left markup, ReturnsInput before text input left markup →
        (before.serve (.markup text)).1 = do
          ((Guest.dealloc input.pointer input.capacity).run.run left).1
          ((Guest.deallocText input.pointer).run.run
            (giveBack [input] left)).1.mapError
              (·.withDetail .pointer (toString input.pointer))
          return some markup := by
  intro before
  have clean : before.ledger.live = [] :=
    serveAll_clean earlier (congrArg Ledger.live fresh)
  refine ⟨freedTwice_iff_returnsInput clean text, ?_⟩
  rintro input left markup ⟨⟨placed, results, placing, done, same⟩, notNull,
    readable⟩
  have answer := serve_markup_of_done clean placing done (same ▸ notNull)
    (same ▸ readable)
  rw [same] at answer
  exact answer

end Rendering

/-! ## A module that returns its input -/

section Borrowing

open Stub

variable {client : Client} {heap : Nat} {text : String}

/-- The instance once a text is in place, and also once it has gone back. -/
def borrowed (client : Client) (heap : Nat) (text : String) : Instance :=
  client.running.resume (withText client.running.store heap text .nul)
    client.running.host.beginCall

theorem borrows_borrowed (borrows : Borrows client.running heap)
    (fits : textEnd heap text ≤ heapLimit) :
    Borrows (borrowed client heap text) (textEnd heap text) :=
  borrows.resume (borrows.heap.withText fits .nul) _

theorem giveBack_borrowed (borrows : Borrows client.running heap)
    (fits : textEnd heap text ≤ heapLimit) :
    giveBack [block heap text] (borrowed client heap text) =
      borrowed client heap text := by
  have back := run_dealloc (borrows_borrowed borrows fits).toHosts
    (block heap text).pointer (block heap text).capacity
  exact congrArg Prod.snd back

theorem returnsInput_of_borrows (borrows : Borrows client.running heap)
    (abi : client.contract.abi = .cString)
    (clean : client.ledger.live = [])
    (fits : textEnd heap text ≤ heapLimit) :
    ReturnsInput client text (block heap text) (borrowed client heap text)
      (upToNul text) := by
  have limit := heapLimit_eq
  have word := wordCount_word
  have room := lt_textEnd heap text
  have positive : 0 < heap :=
    lt_of_lt_of_le (by decide) borrows.heap.afterData
  have pointer : heap.toUInt32.toNat = heap := toNat_toUInt32 (by omega)
  refine ⟨⟨⟨client.contract,
    client.ledger.record heap.toUInt32 (blockSize text),
    borrowed client heap text⟩, [.i32 heap.toUInt32], ?_, ?_, rfl⟩, ?_, ?_⟩
  · simp only [placing, placingText, abi, Client.perform,
      perform_placeText_borrow borrows fits clean]
    rfl
  · simp only [entered, abi]
    exact run_enter_borrow (borrows_borrowed borrows fits) heap.toUInt32
  · exact toUInt32_ne_zero (by omega) (by omega)
  · rw [giveBack_borrowed borrows fits]
    change (withText client.running.store heap text .nul).memory.readCText
      heap.toUInt32 = _
    simp only [Memory.readCText, pointer,
      (holdsCText_withText borrows.heap fits).scan, Memory.decodeAt,
      Utf8.decode_encode]
    rfl

theorem borrows_starts (page : Page) :
    ∃ client,
      Client.instantiateWith 100 borrowModule.encode none page = .ok client ∧
        client.contract.abi = .cString ∧ client.ledger.live = [] ∧
        Borrows client.running heapStart.toNat := by
  obtain ⟨contract, abi, started⟩ := starts_borrow.instantiateWith 100 page
  exact ⟨_, started, abi, rfl, borrows_started (by decide) page⟩

theorem borrow_base_freed_twice :
    ∃ client,
      Client.instantiateWith 100 borrowModule.encode none
          (Page.parse "<p id=a></p>") = .ok client ∧
        ∃ pointer, FreedTwice pointer (client.calls (.markup "base")) := by
  obtain ⟨client, started, abi, clean, borrows⟩ :=
    borrows_starts (Page.parse "<p id=a></p>")
  have returns := returnsInput_of_borrows borrows abi clean
    (show textEnd heapStart.toNat "base" ≤ heapLimit by decide +kernel)
  exact ⟨client, started,
    (serveAll_freedTwice_iff (ledger_of_instantiateWith started) []
      "base").1.mpr ⟨_, _, _, returns⟩⟩

/-- The answer is the text that the function was given, after both calls that
free its pointer. -/
theorem serve_of_borrows (borrows : Borrows client.running heap)
    (abi : client.contract.abi = .cString)
    (clean : client.ledger.live = [])
    (fits : textEnd heap text ≤ heapLimit) :
    client.calls (.markup text) =
        [.alloc (blockSize text) (some heap.toUInt32),
          .enter [heap.toUInt32], .dealloc heap.toUInt32 (blockSize text),
          .deallocText heap.toUInt32] ∧
      (client.serve (.markup text)).1 = .ok (some (upToNul text)) := by
  have after := borrows_borrowed borrows fits
  obtain ⟨⟨placed, results, placing, done, same⟩, notNull, readable⟩ :=
    returnsInput_of_borrows borrows abi clean fits
  rw [← same] at notNull readable
  have sameOutput : returned results = heap.toUInt32 := same
  obtain ⟨function, found, defines⟩ := after.deallocText
  constructor
  · rw [calls_markup_of_done clean placing done notNull, readable, sameOutput]
    rfl
  · rw [serve_markup_of_done clean placing done notNull readable,
      giveBack_borrowed borrows fits, run_dealloc after.toHosts,
      run_deallocText after.toHosts found defines]
    rfl

/-- A function that returns the pointer of its input is answered as any
other, though the host has freed that pointer twice by then. -/
theorem borrow_base_answered :
    ∃ client placed results left,
      Client.instantiateWith 100 borrowModule.encode none
          (Page.parse "<p id=a></p>") = .ok client ∧
        client.placing (.markup "base") =
          (.ok [⟨1024, 4, 5, .nul⟩], placed) ∧
        placed.entered [⟨1024, 4, 5, .nul⟩] = (.done results, left) ∧
        returned results = 1024 ∧
        client.calls (.markup "base") =
          [.alloc 5 (some 1024), .enter [1024], .dealloc 1024 5,
            .deallocText 1024] ∧
        (client.serve (.markup "base")).1 = .ok (some "base") := by
  obtain ⟨client, started, abi, clean, borrows⟩ :=
    borrows_starts (Page.parse "<p id=a></p>")
  have fits : textEnd heapStart.toNat "base" ≤ heapLimit := by
    decide +kernel
  have sameBlock : block heapStart.toNat "base" = ⟨1024, 4, 5, .nul⟩ := by
    decide +kernel
  have whole : upToNul "base" = "base" := by
    decide +kernel
  obtain ⟨placed, results, placing, done, same⟩ :=
    (returnsInput_of_borrows borrows abi clean fits).called
  obtain ⟨sameCalls, answer⟩ := serve_of_borrows borrows abi clean fits
  rw [sameBlock] at placing done same
  rw [whole] at answer
  exact ⟨client, placed, results, _, started, placing, done, same,
    sameCalls.trans (by decide +kernel), answer⟩

end Borrowing

end Client

end KeymapViewer
