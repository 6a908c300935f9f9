import KeymapViewer.Proofs.Client.Settled

/-!
The call of the render function. A request first places the strings that the
function is given, then calls it, then gives the strings back; what a request
is answered with depends on how the call ended and on what giving back did to
the guest.
-/

namespace KeymapViewer

open Text Wasm Exchange

/-- The words that a render function is called with. -/
def EntryAbi.arguments (abi : EntryAbi) (strings : List GuestString) :
    List UInt32 :=
  match abi with
  | .cString => strings.map (·.pointer)
  | .bindgen => strings.flatMap fun string => [string.pointer, string.length]

/-- The ledger holds the blocks of these strings and no others. -/
structure Ledger.Holds (ledger : Ledger) (strings : List GuestString) :
    Prop where
  known : ∀ string ∈ strings,
    ledger.capacity? string.pointer = some string.capacity
  distinct : (strings.map (·.pointer)).Nodup

theorem Ledger.capacity?_forget_of_ne
    {pointer other : UInt32} (differs : other ≠ pointer)
    (ledger : Ledger) :
    (ledger.forget pointer).capacity? other = ledger.capacity? other := by
  unfold forget capacity?
  simp only
  generalize ledger.live = entries
  induction entries with
  | nil =>
      rfl
  | cons entry rest inductionHypothesis =>
      obtain ⟨first, size⟩ := entry
      by_cases same : first = pointer
      · have apart : (other == first) = false :=
          beq_eq_false_iff_ne.mpr (same ▸ differs)
        simp only [List.filter_cons, same, bne_self_eq_false,
          Bool.false_eq_true, ↓reduceIte, inductionHypothesis,
          List.lookup_cons, same ▸ apart]
      · simp only [List.filter_cons, bne_iff_ne, ne_eq, same,
          not_false_eq_true, ↓reduceIte, List.lookup_cons,
          inductionHypothesis]

/-- The other strings stay in the ledger when one goes back. -/
theorem Ledger.Holds.tail
    {ledger after : Ledger} {string : GuestString}
    {rest : List GuestString} (holds : ledger.Holds (string :: rest))
    (live : after.live = (ledger.forget string.pointer).live) :
    after.Holds rest := by
  obtain ⟨fresh, distinct⟩ := List.nodup_cons.mp holds.distinct
  refine ⟨fun other member => ?_, distinct⟩
  have differs : other.pointer ≠ string.pointer :=
    fun same => fresh (List.mem_map.mpr ⟨other, member, same⟩)
  have kept := capacity?_forget_of_ne differs ledger
  rw [capacity?, live]
  exact kept.trans (holds.known other (List.mem_cons_of_mem _ member))

namespace Client

variable {σ α : Type}

section Rendering

variable [Renderer σ]

/-! ## Before the call -/

def placeText (text : String) : Exchange σ (List GuestString) := do
  beginCall
  let input ← Exchange.writeString text .nul
  return [input]

def placeElement (text id : String) : Exchange σ (List GuestString) := do
  beginCall
  let contents ← Exchange.writeString text .none
  let target ←
    try
      Exchange.writeString id .none
    catch fault =>
      Exchange.release contents
      throw fault
  return [contents, target]

/-- The strings that the render function is given for a text, and the client
by then. -/
def placingText (client : Client σ) (text : String) :
    Except Fault (List GuestString) × Client σ :=
  match client.contract.abi with
  | .bindgen =>
    (.error (EntryFault.fillsPage client.contract.entry).fault, client)
  | .cString => client.perform (placeText text)

/-- The strings that the render function is given for a request, and the
client by then; or why the request does not come to a call. -/
def placing (client : Client σ) :
    Request → Except Fault (List GuestString) × Client σ
  | .markup text => client.placingText text
  | .into text id =>
    if !client.page.contains id then (.error (.missingElement id), client)
    else
      match client.contract.abi with
      | .bindgen => client.perform (placeElement text id)
      | .cString => client.placingText text

/-- The call of the render function, once its strings are in place. -/
def entered (placed : Client σ) (strings : List GuestString) : Outcome × σ :=
  (Renderer.enter (placed.contract.abi.arguments strings)).run placed.running

end Rendering

section Writing

variable [Guest σ]

/-- A text that has been written lies in a fresh block that the ledger
knows. -/
theorem writeString_eq_ok
    {text : String} {terminator : Terminator} {ledger after : Ledger}
    {guest left : σ} {string : GuestString}
    (written : (writeString text terminator).perform ledger guest =
      (.ok string, after, left)) :
    after = ledger.record string.pointer string.capacity ∧
      ledger.holds string.pointer = false ∧
      string = ⟨string.pointer, (byteLength text).toUInt32, blockSize text,
        terminator⟩ ∧
      ∃ allocated length,
        (Guest.alloc (blockSize text)).run.run guest =
            (.ok string.pointer, allocated) ∧
          (Guest.writeText string.pointer text terminator).run.run
            allocated = (.ok length, left) := by
  rw [perform_writeString] at written
  split at written
  · cases written
  rcases asked : (Guest.alloc (blockSize text)).run.run guest with
    ⟨fault | pointer, allocated⟩
  · simp only [asked] at written
    cases written
  simp only [asked] at written
  split at written
  · cases written
  rename_i fresh
  rcases copied :
      (Guest.writeText pointer text terminator).run.run allocated with
    ⟨fault | length, filled⟩
  · simp only [copied] at written
    rcases returned :
        (Guest.dealloc pointer (blockSize text)).run.run filled with
      ⟨second | freed, last⟩
    all_goals
      simp only [returned] at written
      cases written
  · simp only [copied] at written
    cases written
    exact ⟨rfl, eq_false_of_ne_true fresh, rfl, allocated, length, rfl,
      copied⟩

end Writing

section Rendering

variable [Renderer σ]

theorem placeText_eq_ok
    {text : String} {ledger after : Ledger} {guest left : σ}
    {strings : List GuestString}
    (placed : (placeText text).perform ledger guest =
      (.ok strings, after, left)) :
    ∃ input, strings = [input] ∧
      (writeString text .nul).perform ledger (Renderer.beginCall guest) =
        (.ok input, after, left) := by
  simp only [placeText, perform_bind, perform_beginCall, perform_pure]
    at placed
  rcases written :
      (writeString text .nul).perform ledger (Renderer.beginCall guest) with
    ⟨fault | input, middle, filled⟩
  · simp only [written] at placed
    cases placed
  · simp only [written] at placed
    cases placed
    exact ⟨input, rfl, rfl⟩

theorem placeElement_eq_ok
    {text id : String} {ledger after : Ledger} {guest left : σ}
    {strings : List GuestString}
    (placed : (placeElement text id).perform ledger guest =
      (.ok strings, after, left)) :
    ∃ contents target middle filled, strings = [contents, target] ∧
      (writeString text .none).perform ledger (Renderer.beginCall guest) =
        (.ok contents, middle, filled) ∧
      (writeString id .none).perform middle filled =
        (.ok target, after, left) := by
  simp only [placeElement, perform_bind, perform_beginCall, perform_pure,
    perform_tryCatch, perform_throw] at placed
  rcases written :
      (writeString text .none).perform ledger (Renderer.beginCall guest) with
    ⟨fault | contents, middle, filled⟩
  · simp only [written] at placed
    cases placed
  simp only [written] at placed
  rcases writtenId : (writeString id .none).perform middle filled with
    ⟨fault | target, last, filledId⟩
  · simp only [writtenId] at placed
    rcases released : (release contents).perform last filledId with
      ⟨second | done, freed⟩
    all_goals
      simp only [released] at placed
      cases placed
  · simp only [writtenId] at placed
    cases placed
    exact ⟨contents, target, middle, filled, rfl, rfl, writtenId⟩

theorem holds_of_placeText
    {text : String} {ledger after : Ledger} {guest left : σ}
    {strings : List GuestString}
    (placed : (placeText text).perform ledger guest =
      (.ok strings, after, left)) :
    after.Holds strings := by
  obtain ⟨input, rfl, written⟩ := placeText_eq_ok placed
  obtain ⟨rfl, -, -⟩ := writeString_eq_ok written
  exact ⟨by simp [Ledger.capacity?, Ledger.record], by simp⟩

theorem holds_of_placeElement
    {text id : String} {ledger after : Ledger} {guest left : σ}
    {strings : List GuestString}
    (placed : (placeElement text id).perform ledger guest =
      (.ok strings, after, left)) :
    after.Holds strings := by
  obtain ⟨contents, target, middle, filled, rfl, written, writtenId⟩ :=
    placeElement_eq_ok placed
  obtain ⟨rfl, -, -⟩ := writeString_eq_ok written
  obtain ⟨rfl, fresh, -⟩ := writeString_eq_ok writtenId
  have differs : contents.pointer ≠ target.pointer := by
    rintro same
    simp [Ledger.holds, Ledger.capacity?, Ledger.record, ← same] at fresh
  have apart : (contents.pointer == target.pointer) = false :=
    beq_eq_false_iff_ne.mpr differs
  refine ⟨?_, by simpa using differs⟩
  simp [Ledger.capacity?, Ledger.record, List.lookup_cons, apart]

omit [Renderer σ] in
theorem perform_eq
    {render : Exchange σ α} {client after : Client σ}
    {result : Except Fault α}
    (performed : client.perform render = (result, after)) :
    after.contract = client.contract ∧
      render.perform client.ledger client.running =
        (result, after.ledger, after.running) := by
  cases performed
  exact ⟨rfl, rfl⟩

/-- What a request comes to that reaches the call: its strings have been
placed as the contract of the module asks for it. -/
inductive Placed (client placed : Client σ) (strings : List GuestString) :
    Request → Prop
  | markup {text : String} (abi : client.contract.abi = .cString)
      (performed : (placeText text).perform client.ledger client.running =
        (.ok strings, placed.ledger, placed.running)) :
      Placed client placed strings (.markup text)
  | text {text id : String} (abi : client.contract.abi = .cString)
      (known : client.page.contains id = true)
      (performed : (placeText text).perform client.ledger client.running =
        (.ok strings, placed.ledger, placed.running)) :
      Placed client placed strings (.into text id)
  | element {text id : String} (abi : client.contract.abi = .bindgen)
      (known : client.page.contains id = true)
      (performed : (placeElement text id).perform client.ledger
        client.running = (.ok strings, placed.ledger, placed.running)) :
      Placed client placed strings (.into text id)

theorem placingText_eq_ok
    {client placed : Client σ} {text : String} {strings : List GuestString}
    (placing : client.placingText text = (.ok strings, placed)) :
    client.contract.abi = .cString ∧
      placed.contract = client.contract ∧
      (placeText text).perform client.ledger client.running =
        (.ok strings, placed.ledger, placed.running) := by
  unfold placingText at placing
  cases abi : client.contract.abi with
  | bindgen =>
      simp only [abi] at placing
      cases placing
  | cString =>
      simp only [abi] at placing
      exact ⟨rfl, perform_eq placing⟩

theorem placing_eq_ok
    {client placed : Client σ} {request : Request}
    {strings : List GuestString}
    (placing : client.placing request = (.ok strings, placed)) :
    placed.contract = client.contract ∧
      Placed client placed strings request := by
  cases request with
  | markup text =>
      obtain ⟨abi, same, performed⟩ := placingText_eq_ok placing
      exact ⟨same, .markup abi performed⟩
  | into text id =>
      simp only [Client.placing] at placing
      cases known : client.page.contains id with
      | false =>
          simp only [known, Bool.not_false, ↓reduceIte] at placing
          cases placing
      | true =>
          simp only [known, Bool.not_true, Bool.false_eq_true, ↓reduceIte]
            at placing
          cases abi : client.contract.abi with
          | bindgen =>
              simp only [abi] at placing
              obtain ⟨same, performed⟩ := perform_eq placing
              exact ⟨same, .element abi known performed⟩
          | cString =>
              simp only [abi] at placing
              obtain ⟨_, same, performed⟩ := placingText_eq_ok placing
              exact ⟨same, .text abi known performed⟩

/-- Strings that have been placed are in the ledger, each with a pointer of
its own. -/
theorem Placed.holds
    {client placed : Client σ} {request : Request}
    {strings : List GuestString}
    (place : Placed client placed strings request) :
    placed.ledger.Holds strings := by
  cases place with
  | markup abi performed =>
      exact holds_of_placeText performed
  | text abi known performed =>
      exact holds_of_placeText performed
  | element abi known performed =>
      exact holds_of_placeElement performed

/-! ## After the call -/

/-- The guest after the calls that give strings back, each of them made
whatever the ones before it return. -/
def giveBack (strings : List GuestString) (guest : σ) : σ :=
  strings.foldl (fun guest string =>
    ((Guest.dealloc string.pointer string.capacity).run.run guest).2) guest

omit [Renderer σ] in
theorem perform_release_of_known [Guest σ]
    {string : GuestString} {ledger : Ledger}
    (known : ledger.capacity? string.pointer = some string.capacity)
    (guest : σ) :
    ∃ after,
      (release string).perform ledger guest =
        (((Guest.dealloc string.pointer string.capacity).run.run guest).1,
          after,
          ((Guest.dealloc string.pointer string.capacity).run.run guest).2) ∧
      after.live = (ledger.forget string.pointer).live := by
  simp only [perform_release, known, ne_eq, not_true_eq_false, ↓reduceIte]
  rcases (Guest.dealloc string.pointer string.capacity).run.run guest with
    ⟨fault | freed, left⟩
  · exact ⟨_, rfl, rfl⟩
  · exact ⟨_, rfl, rfl⟩

theorem perform_releaseAll_of_holds
    {strings : List GuestString} {ledger : Ledger}
    (holds : ledger.Holds strings) (guest : σ) :
    ((releaseAll strings).perform ledger guest).2.2 =
      giveBack strings guest := by
  induction strings generalizing ledger guest with
  | nil =>
      rfl
  | cons string rest inductionHypothesis =>
      obtain ⟨after, performed, live⟩ :=
        perform_release_of_known
          (holds.known string (List.mem_cons_self ..)) guest
      have others := inductionHypothesis (holds.tail live)
        ((Guest.dealloc string.pointer string.capacity).run.run guest).2
      rw [giveBack, List.foldl_cons, ← giveBack, ← others]
      simp only [releaseAll, perform_bind, perform_attempt, performed,
        perform_ofResult]
      cases ((Guest.dealloc string.pointer string.capacity).run.run
          guest).1 with
      | error fault =>
          rfl
      | ok freed =>
          rfl

theorem perform_renderText_of_trap
    (entry : String) {text : String} {ledger after last : Ledger}
    {guest filled left freed : σ} {input : GuestString} {reason : Trap}
    {released : Except Fault Unit}
    (written :
      (writeString text .nul).perform ledger (Renderer.beginCall guest) =
        (.ok input, after, filled))
    (trapped : (Renderer.enter [input.pointer]).run filled =
      (.trap reason, left))
    (gone : (release input).perform after left = (released, last, freed)) :
    (renderText entry text).perform ledger guest =
      (.error ((Renderer.takeCause entry reason).run freed).1, last,
        ((Renderer.takeCause entry reason).run freed).2) := by
  simp only [renderText, perform_bind, perform_beginCall, written,
    perform_callEntry, trapped, perform_attempt, gone, perform_failEntry]

theorem perform_renderElement_of_trap
    (entry : String) {text id : String} {ledger middle after : Ledger}
    {guest filled placed left : σ} {contents target : GuestString}
    {reason : Trap}
    (written :
      (writeString text .none).perform ledger (Renderer.beginCall guest) =
        (.ok contents, middle, filled))
    (writtenId : (writeString id .none).perform middle filled =
      (.ok target, after, placed))
    (trapped :
      (Renderer.enter [contents.pointer, contents.length, target.pointer,
        target.length]).run placed = (.trap reason, left)) :
    ((renderElement entry text id).perform ledger guest).1 =
      .error ((Renderer.takeCause entry reason).run
        ((releaseAll [contents, target]).perform after left).2.2).1 := by
  simp only [renderElement, perform_bind, perform_beginCall, written,
    perform_tryCatch, writtenId, perform_callEntry, trapped,
    perform_attempt, perform_failEntry]

theorem renderMarkup_of_trap
    {client placed : Client σ} (abi : client.contract.abi = .cString)
    {text : String} {strings : List GuestString}
    (performed : (placeText text).perform client.ledger client.running =
      (.ok strings, placed.ledger, placed.running))
    {reason : Trap} {left : σ}
    (trapped : (Renderer.enter (EntryAbi.cString.arguments strings)).run
      placed.running = (.trap reason, left)) :
    (client.renderMarkup text).1 =
      .error ((Renderer.takeCause client.contract.entry reason).run
        (giveBack strings left)).1 := by
  have holds := holds_of_placeText performed
  obtain ⟨input, rfl, written⟩ := placeText_eq_ok performed
  obtain ⟨last, released, -⟩ :=
    perform_release_of_known (holds.known input (by simp)) left
  have failed := perform_renderText_of_trap client.contract.entry written
    trapped released
  simp only [renderMarkup, abi]
  exact congrArg Prod.fst failed

/-- When a call of the render function does not return, the request is
answered with the cause that is found once all strings have gone back. -/
theorem serve_of_trap
    {client placed : Client σ} {request : Request}
    {strings : List GuestString}
    (placing : client.placing request = (.ok strings, placed))
    {reason : Trap} {left : σ}
    (trapped : placed.entered strings = (.trap reason, left)) :
    (client.serve request).1 =
      .error ((Renderer.takeCause client.contract.entry reason).run
        (giveBack strings left)).1 := by
  obtain ⟨same, place⟩ := placing_eq_ok placing
  rw [entered, same] at trapped
  cases place with
  | markup abi performed =>
      rw [abi] at trapped
      exact congrArg (Except.map some)
        (renderMarkup_of_trap abi performed trapped)
  | @text text id abi known performed =>
      rw [abi] at trapped
      have failed := renderMarkup_of_trap abi performed trapped
      simp only [serve, renderInto, known, Bool.not_true, Bool.false_eq_true,
        ↓reduceIte, abi]
      rcases rendered : client.renderMarkup text with ⟨fault | markup, after⟩
      · rw [rendered] at failed
        cases failed
        rfl
      · rw [rendered] at failed
        cases failed
  | element abi known performed =>
      rw [abi] at trapped
      have holds := holds_of_placeElement performed
      obtain ⟨contents, target, middle, filled, rfl, written, writtenId⟩ :=
        placeElement_eq_ok performed
      have failed := perform_renderElement_of_trap client.contract.entry
        written writtenId trapped
      rw [perform_releaseAll_of_holds holds] at failed
      simp only [serve, renderInto, known, Bool.not_true, Bool.false_eq_true,
        ↓reduceIte, abi]
      exact congrArg (Except.map fun () => none) failed

end Rendering

end Client

end KeymapViewer
