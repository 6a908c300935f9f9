import KeymapViewer.Proofs.Client.Entry
import KeymapViewer.Proofs.Host.Cause
import KeymapViewer.Proofs.Wasm.Turn
import KeymapViewer.Proofs.Stub.Start
import KeymapViewer.Proofs.Stub.Strings

/-!
What a request is answered with when the render function does not return. The
cause is taken only after the strings have gone back, so a call that gives
one back can hide what the render function has left behind.
-/

namespace KeymapViewer

open Text Wasm Exchange

namespace Instance

variable {μ ς : Type} [Runtime μ ς]

/-! ## Calls of the allocator -/

/-- Giving a block back is one call, whatever comes of it. -/
theorem run_dealloc (running : Instance μ ς) (pointer size : UInt32) :
    ((Guest.dealloc pointer size).run.run running).2 =
      ((invoke running.allocator.dealloc [pointer, size]).run running).2 := by
  rcases called :
      (invoke running.allocator.dealloc [pointer, size]).run running with
    ⟨results | reason, after⟩
  all_goals
    simp only [Guest.dealloc, callAbout, run_bind, run_get,
      run_liftM called]
    rfl

theorem host_writeText (running : Instance μ ς) (pointer : UInt32)
    (text : String) (terminator : Terminator) :
    ((Guest.writeText pointer text terminator :
      Guest.Call (Instance μ ς) UInt32).run.run running).2.host =
        running.host := by
  rw [Exchange.run_writeText]
  split
  · rfl
  · cases (Guest.memory running).checkSpan pointer
        (terminator.encode text).length.toUInt32 with
    | error reason =>
        rfl
    | ok checked =>
        rfl

/-- What the calls that give strings back leave behind, each by itself. -/
def causesOfGivingBack (running : Instance μ ς) :
    List GuestString → List Cause
  | [] => []
  | string :: rest =>
    running.causeOf running.allocator.dealloc
        [string.pointer, string.capacity] ::
      causesOfGivingBack
        ((Guest.dealloc string.pointer string.capacity).run.run running).2
        rest

variable [LawfulRuntime μ]

theorem cause_alloc {running after : Instance μ ς} {size pointer : UInt32}
    (allocated : (Guest.alloc size).run.run running = (.ok pointer, after)) :
    after.host.cause = running.host.cause := by
  rcases called :
      (invoke running.allocator.alloc [size]).run running with
    ⟨results | reason, left⟩
  · have sameAfter : left = after := by
      have kept : ((Guest.alloc size).run.run running).2 = left := by
        have returned : (callAllocator "alloc" running.allocator.alloc
            [size]).run.run running = (.ok results, left) := by
          simp only [callAllocator, run_bind, run_liftM called]
          rfl
        simp only [Guest.alloc, run_bind, run_get, returned]
        split
        · rfl
        · rfl
      rw [← kept, allocated]
    have done : ((invoke running.allocator.alloc [size]).run running).1 =
        .done results := by
      rw [called]
    have cause := (running.cause_invoke running.allocator.alloc [size]).1
    rw [causeOf_of_done done, called, Cause.followedBy_plain] at cause
    rw [← sameAfter, cause]
  · simp only [Guest.alloc, callAllocator, run_bind, run_get,
      run_liftM called] at allocated
    cases allocated

theorem cause_writeString {running left : Instance μ ς} {text : String}
    {terminator : Terminator} {ledger after : Ledger} {string : GuestString}
    (written : (writeString text terminator).perform ledger running =
      (.ok string, after, left)) :
    left.host.cause = running.host.cause := by
  obtain ⟨-, -, -, allocated, length, asked, copied⟩ :=
    Client.writeString_eq_ok written
  have sameHost := host_writeText allocated string.pointer text terminator
  rw [copied] at sameHost
  rw [sameHost, cause_alloc asked]

/-! ## Giving strings back -/

theorem cause_giveBack (strings : List GuestString) (running : Instance μ ς) :
    (Client.giveBack strings running).host.cause =
      (running.causesOfGivingBack strings).foldl Cause.followedBy
        running.host.cause := by
  induction strings generalizing running with
  | nil =>
      rfl
  | cons string rest inductionHypothesis =>
      have freed :=
        (running.cause_invoke running.allocator.dealloc
          [string.pointer, string.capacity]).1
      rw [← run_dealloc] at freed
      rw [causesOfGivingBack, List.foldl_cons, ← freed]
      exact inductionHypothesis _

theorem told_causesOfGivingBack (strings : List GuestString)
    (running : Instance μ ς) :
    ∀ cause ∈ running.causesOfGivingBack strings, cause.Told := by
  induction strings generalizing running with
  | nil =>
      rintro cause ⟨⟩
  | cons string rest inductionHypothesis =>
      intro cause member
      rcases List.mem_cons.mp member with rfl | later
      · exact (running.cause_invoke _ _).2
      · exact inductionHypothesis _ cause later

end Instance

namespace Client

section Trapped

variable {μ ς : Type} [Runtime μ ς]
  {client placed : Client (Instance μ ς)} {request : Request}
  {strings : List GuestString} {reason : Trap} {left : Instance μ ς}

/-- What the call of the render function leaves behind by itself. -/
def ownCause (placed : Client (Instance μ ς)) (strings : List GuestString) :
    Cause :=
  placed.running.causeOf placed.running.entry
    (placed.contract.abi.arguments strings)

variable [LawfulRuntime μ]

/-- Nothing is left of earlier calls once the strings are in place. -/
theorem cause_of_placing
    (placing : client.placing request = (.ok strings, placed)) :
    placed.running.host.cause = .plain := by
  have textPlaced {text : String}
      (performed : (placeText text).perform client.ledger client.running =
        (.ok strings, placed.ledger, placed.running)) :
      placed.running.host.cause = .plain := by
    obtain ⟨input, -, written⟩ := placeText_eq_ok performed
    exact Instance.cause_writeString written
  cases (placing_eq_ok placing).2 with
  | markup abi performed =>
      exact textPlaced performed
  | text abi known performed =>
      exact textPlaced performed
  | element abi known performed =>
      obtain ⟨contents, target, middle, filled, -, written, writtenId⟩ :=
        placeElement_eq_ok performed
      rw [Instance.cause_writeString writtenId]
      exact Instance.cause_writeString written

theorem cause_of_entered
    (placing : client.placing request = (.ok strings, placed))
    (trapped : placed.entered strings = (.trap reason, left)) :
    left.host.cause = placed.ownCause strings ∧
      (placed.ownCause strings).Told := by
  have invoked :
      (Instance.invoke placed.running.entry
        (placed.contract.abi.arguments strings)).run placed.running =
          (.trap reason, left) :=
    trapped
  obtain ⟨leftCause, told⟩ := placed.running.cause_invoke
    placed.running.entry (placed.contract.abi.arguments strings)
  rw [invoked, cause_of_placing placing, Cause.plain_followedBy] at leftCause
  exact ⟨leftCause, told⟩

/-- The answer tells what is left once the strings have gone back. -/
theorem serve_of_last_cause
    (placing : client.placing request = (.ok strings, placed))
    (trapped : placed.entered strings = (.trap reason, left)) :
    (client.serve request).1 =
      .error (((left.causesOfGivingBack strings).foldl Cause.followedBy
        left.host.cause).fault client.contract.entry reason.message) := by
  rw [serve_of_trap placing trapped]
  change Except.error ((giveBack strings left).host.callFault _ _) = _
  rw [Host.callFault_eq, Instance.cause_giveBack]

/-- When a call of the render function does not return, it has a cause of its
own; but the request is answered with what is left once the strings have gone
back. The two are told as the same fault exactly when the calls that give the
strings back hide nothing. -/
theorem serve_of_trapped_entry
    (placing : client.placing request = (.ok strings, placed))
    (trapped : placed.entered strings = (.trap reason, left)) :
    let entry := client.contract.entry
    let own := placed.ownCause strings
    let last := (left.causesOfGivingBack strings).foldl Cause.followedBy own
    (client.serve request).1 = .error (last.fault entry reason.message) ∧
      ((client.serve request).1 = .error (own.fault entry reason.message) ↔
        last = own) := by
  intro entry own last
  obtain ⟨leftCause, toldOwn⟩ := cause_of_entered placing trapped
  have answer := serve_of_last_cause placing trapped
  rw [leftCause] at answer
  have toldLast : last.Told :=
    Cause.told_foldl toldOwn (Instance.told_causesOfGivingBack strings left)
  refine ⟨answer, ?_⟩
  rw [answer, Except.error.injEq]
  exact Cause.fault_inj toldLast toldOwn entry reason.message

end Trapped

/-! ## A string that cannot be given back -/

/-- A module whose render function traps, and whose `dealloc` gives back a
handle that it does not have. -/
def failingFree : Wasm.Module :=
  Stub.frame
    [Stub.type 1 0, Stub.type 1 1, Stub.type 2 0, Stub.type 1 0,
      Stub.type 1 1]
    [⟨Stub.importModule, "__wbindgen_object_drop_ref", .function 0⟩]
    [("alloc", Stub.allocCode), ("dealloc", ⟨[], [.i32Const 8, .call 0]⟩),
      ("dealloc_str", Stub.nothingCode), ("svg", ⟨[], [.unreachable]⟩)] []

/-- What the callback of `failingFree` fails with. -/
def staleHandle : Fault :=
  ⟨.contract, "Handle 8 does not refer to a live host value",
    [(.handle, "8")]⟩

/-- The render function is called with this string for the text `base`. -/
def baseBlock : GuestString := ⟨1024, 4, 5, .nul⟩

theorem failingFree_traps :
    ∃ client placed left,
      Client.instantiateWith 100 failingFree.encode none
          (Page.parse "<p id=a></p>") = .ok client ∧
        client.placing (.markup "base") = (.ok [baseBlock], placed) ∧
        placed.entered [baseBlock] = (.trap .unreachable, left) ∧
        left.host.cause = .plain ∧
        left.causesOfGivingBack [baseBlock] = [.failed staleHandle] ∧
        client.contract.entry = "svg" := by
  have observed :
      (Client.instantiateWith 100 failingFree.encode none
          (Page.parse "<p id=a></p>")).toOption.map (fun client =>
            let placed := (client.placing (.markup "base")).2
            let called := placed.entered [baseBlock]
            ((client.placing (.markup "base")).1.toOption, called.1,
              called.2.host.cause, called.2.causesOfGivingBack [baseBlock],
              client.contract.entry)) =
        some (some [baseBlock], .trap .unreachable, .plain,
          [.failed staleHandle], "svg") := by
    decide +kernel
  rcases started :
      Client.instantiateWith 100 failingFree.encode none
        (Page.parse "<p id=a></p>") with fault | client
  · rw [started] at observed
    cases observed
  rw [started] at observed
  simp only [Except.toOption, Option.map_some, Option.some.injEq,
    Prod.mk.injEq] at observed
  obtain ⟨placedStrings, trapped, own, later, entry⟩ := observed
  exact ⟨client, (client.placing (.markup "base")).2, _, rfl,
    Prod.ext (Stub.ok_of_toOption placedStrings) rfl,
    Prod.ext trapped rfl, own, later, entry⟩

theorem failingFree_answered :
    ∃ client placed left,
      Client.instantiateWith 100 failingFree.encode none
          (Page.parse "<p id=a></p>") = .ok client ∧
        client.placing (.markup "base") = (.ok [baseBlock], placed) ∧
        placed.entered [baseBlock] = (.trap .unreachable, left) ∧
        (client.serve (.markup "base")).1 ≠
          .error ((placed.ownCause [baseBlock]).fault "svg"
            Trap.unreachable.message) := by
  obtain ⟨client, placed, left, started, placing, trapped, plain, later,
    entry⟩ := failingFree_traps
  have own := (cause_of_entered placing trapped).1
  rw [plain] at own
  have same := (serve_of_trapped_entry placing trapped).2
  rw [← own, later, entry] at same
  refine ⟨client, placed, left, started, placing, trapped, fun answer => ?_⟩
  rw [← own] at answer
  cases same.mp answer

/-- The function traps by itself, without a word from a callback or from the
module; the answer is the fault of a callback that `dealloc` has called. -/
theorem failingFree_hides_trap :
    ∃ client placed left,
      Client.instantiateWith 100 failingFree.encode none
          (Page.parse "<p id=a></p>") = .ok client ∧
        client.placing (.markup "base") = (.ok [baseBlock], placed) ∧
        placed.entered [baseBlock] = (.trap .unreachable, left) ∧
        left.host.cause = .plain ∧
        (client.serve (.markup "base")).1 = .error staleHandle ∧
        Cause.plain.fault "svg" Trap.unreachable.message ≠ staleHandle := by
  obtain ⟨client, placed, left, started, placing, trapped, plain, later,
    entry⟩ := failingFree_traps
  have answer := serve_of_last_cause placing trapped
  rw [plain, later] at answer
  exact ⟨client, placed, left, started, placing, trapped, plain, answer,
    by decide +kernel⟩

end Client

end KeymapViewer
