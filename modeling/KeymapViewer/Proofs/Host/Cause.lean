import KeymapViewer.Instance
import KeymapViewer.Proofs.Handle.Refinement
import KeymapViewer.Proofs.Wasm.Lawful

/-!
Why calls of a module end early. The host keeps the fault of a callback and
the message that a module threw until it is asked for them. Callbacks never
look at either, so what a call leaves behind does not depend on what earlier
calls have left; but it can hide it.
-/

namespace KeymapViewer

open Wasm

/-- What calls into a module have left behind. -/
inductive Cause where
  /-- A callback failed. -/
  | failed (fault : Fault)
  /-- The module threw a message. -/
  | threw (message : String)
  /-- No callback has anything to tell. -/
  | plain
  deriving DecidableEq, Repr

namespace Cause

/-- The fault that is told when a call of an export has ended early. -/
def fault (cause : Cause) (exportName reason : String) : Fault :=
  match cause with
  | .failed fault => fault
  | .threw message =>
    (Fault.reported message).withDetail .exportName exportName
  | .plain =>
    (Fault.module s!"Module trapped in '{exportName}': {reason}").withDetail
      .exportName exportName

/-- What is left once a second call has left something too. -/
def followedBy : Cause → Cause → Cause
  | .failed fault, .threw _ => .failed fault
  | first, .plain => first
  | _, second => second

@[simp]
theorem plain_followedBy (cause : Cause) :
    Cause.plain.followedBy cause = cause := by
  cases cause with
  | failed | threw | plain =>
      rfl

@[simp]
theorem followedBy_plain (cause : Cause) :
    cause.followedBy .plain = cause := by
  cases cause with
  | failed | threw | plain =>
      rfl

/-- Faults of callbacks are about the page or break the contract. -/
def Told : Cause → Prop
  | .failed fault => fault.kind = .contract ∨ fault.kind = .config
  | _ => True

theorem Told.followedBy {first second : Cause} (told : first.Told)
    (toldSecond : second.Told) : (first.followedBy second).Told := by
  cases first with
  | threw | plain =>
      cases second with
      | failed | threw | plain =>
          assumption
  | failed =>
      cases second with
      | failed | threw | plain =>
          assumption

theorem told_foldl {first : Cause} {later : List Cause} (told : first.Told)
    (toldLater : ∀ cause ∈ later, cause.Told) :
    (later.foldl followedBy first).Told := by
  induction later generalizing first with
  | nil =>
      exact told
  | cons cause rest inductionHypothesis =>
      exact inductionHypothesis
        (told.followedBy (toldLater cause (List.mem_cons_self ..)))
        fun other member => toldLater other (List.mem_cons_of_mem _ member)

theorem Told.kind_ne {fault : Fault} (told : (failed fault).Told) :
    fault.kind ≠ .reported ∧ fault.kind ≠ .module := by
  rcases told with kind | kind
  all_goals
    rw [kind]
    decide

/-- Different causes are told as different faults. -/
theorem fault_inj {first second : Cause} (told : first.Told)
    (toldSecond : second.Told) (exportName reason : String) :
    first.fault exportName reason = second.fault exportName reason ↔
      first = second := by
  refine ⟨fun same => ?_, fun same => same ▸ rfl⟩
  have sameKind := congrArg Fault.kind same
  cases first with
  | failed fault =>
      cases second with
      | failed other =>
          exact congrArg failed same
      | threw message =>
          exact absurd sameKind told.kind_ne.1
      | plain =>
          exact absurd sameKind told.kind_ne.2
  | threw message =>
      cases second with
      | failed other =>
          exact absurd sameKind.symm toldSecond.kind_ne.1
      | threw other =>
          exact congrArg threw (congrArg Fault.message same)
      | plain =>
          cases sameKind
  | plain =>
      cases second with
      | failed other =>
          exact absurd sameKind.symm toldSecond.kind_ne.2
      | threw message =>
          cases sameKind
      | plain =>
          rfl

end Cause

/-- The cause that a host has in its two places for them. -/
def Cause.left (failure : Option Fault) (thrown : Option String) : Cause :=
  match failure, thrown with
  | some fault, _ => .failed fault
  | none, some message => .threw message
  | none, none => .plain

namespace Host

def cause (host : Host) : Cause := .left host.failure host.thrown

theorem callFault_eq (host : Host) (exportName reason : String) :
    host.callFault exportName reason = host.cause.fault exportName reason := by
  obtain ⟨page, handles, memoryReady, thrown, failure⟩ := host
  cases failure with
  | some fault =>
      rfl
  | none =>
      cases thrown with
      | some message =>
          rfl
      | none =>
          rfl

/-- The host with other causes. -/
def leave (failure : Option Fault) (thrown : Option String) (host : Host) :
    Host :=
  { host with failure, thrown }

/-- The host without the causes of earlier calls. -/
def blank (host : Host) : Host := host.leave none none

/-! ## Callbacks look at no cause -/

/-- Changes the host in a reply. -/
def Reply.map (change : Host → Host) : Reply → Reply
  | .results values host => .results values (change host)
  | .threw message => .threw message

section Leaving

variable (host : Host) (failure : Option Fault) (thrown : Option String)
  (memory : Memory)

theorem getElementById_leave (document pointer length : UInt32) :
    (host.leave failure thrown).getElementById memory document pointer
        length =
      (host.getElementById memory document pointer length).map
        fun (found, host) => (found, host.leave failure thrown) := by
  have sameHost : (host.leave failure thrown).resolve ⟨document⟩ =
      host.resolve ⟨document⟩ := rfl
  have sameText : (host.leave failure thrown).readText memory pointer
      length = host.readText memory pointer length := rfl
  simp only [getElementById, sameHost, sameText]
  rcases host.resolve ⟨document⟩ with fault | value
  · rfl
  cases value with
  | document =>
      cases host.readText memory pointer length with
      | error fault =>
          rfl
      | ok id =>
          rfl
  | _ =>
      rfl

theorem setInnerHtml_leave (element pointer length : UInt32) :
    (host.leave failure thrown).setInnerHtml memory element pointer length =
      (host.setInnerHtml memory element pointer length).map
        (leave failure thrown) := by
  have sameHost : (host.leave failure thrown).resolve ⟨element⟩ =
      host.resolve ⟨element⟩ := rfl
  have sameText : (host.leave failure thrown).readText memory pointer
      length = host.readText memory pointer length := rfl
  simp only [setInnerHtml, sameHost, sameText]
  rcases host.resolve ⟨element⟩ with fault | value
  · rfl
  cases value with
  | element id =>
      cases host.readText memory pointer length with
      | error fault =>
          rfl
      | ok markup =>
          have samePage : (host.leave failure thrown).page = host.page := rfl
          simp only [bind, Except.bind, samePage]
          cases host.page.setInnerHtml id markup with
          | error fault =>
              rfl
          | ok page =>
              rfl
  | _ =>
      rfl

theorem objectDropRef_leave (handle : UInt32) :
    (host.leave failure thrown).objectDropRef handle =
      (host.objectDropRef handle).map (leave failure thrown) := by
  have sameHandles : (host.leave failure thrown).handles = host.handles := rfl
  simp only [objectDropRef, sameHandles]
  cases host.handles.release ⟨handle⟩ with
  | error misuse =>
      rfl
  | ok handles =>
      rfl

theorem objectCloneRef_leave (handle : UInt32) :
    (host.leave failure thrown).objectCloneRef handle =
      (host.objectCloneRef handle).map
        fun (copy, host) => (copy, host.leave failure thrown) := by
  have sameHandles : (host.leave failure thrown).handles = host.handles := rfl
  simp only [objectCloneRef, sameHandles]
  cases host.handles.clone ⟨handle⟩ with
  | error misuse =>
      rfl
  | ok copied =>
      rfl

theorem answer_leave (function : HostFunction) (arguments : List UInt32) :
    (host.leave failure thrown).answer memory function arguments =
      (host.answer memory function arguments).map
        (Reply.map (leave failure thrown)) := by
  cases function with
  | documentAccessor =>
      rfl
  | getElementById =>
      rcases arguments with
        _ | ⟨document, _ | ⟨pointer, _ | ⟨length, _ | ⟨more, rest⟩⟩⟩⟩
      case cons.cons.cons.nil =>
        simp only [answer, getElementById_leave]
        cases host.getElementById memory document pointer length with
        | error fault =>
            rfl
        | ok found =>
            rfl
      all_goals rfl
  | setInnerHtml =>
      rcases arguments with
        _ | ⟨element, _ | ⟨pointer, _ | ⟨length, _ | ⟨more, rest⟩⟩⟩⟩
      case cons.cons.cons.nil =>
        simp only [answer, setInnerHtml_leave]
        cases host.setInnerHtml memory element pointer length with
        | error fault =>
            rfl
        | ok after =>
            rfl
      all_goals rfl
  | objectDropRef =>
      rcases arguments with _ | ⟨handle, _ | ⟨more, rest⟩⟩
      case cons.nil =>
        simp only [answer, objectDropRef_leave]
        cases host.objectDropRef handle with
        | error fault =>
            rfl
        | ok after =>
            rfl
      all_goals rfl
  | objectCloneRef =>
      rcases arguments with _ | ⟨handle, _ | ⟨more, rest⟩⟩
      case cons.nil =>
        simp only [answer, objectCloneRef_leave]
        cases host.objectCloneRef handle with
        | error fault =>
            rfl
        | ok copied =>
            rfl
      all_goals rfl
  | throw =>
      rcases arguments with _ | ⟨pointer, _ | ⟨length, _ | ⟨more, rest⟩⟩⟩
      case cons.cons.nil =>
        have sameText : (host.leave failure thrown).readText memory pointer
            length = host.readText memory pointer length := rfl
        simp only [answer, sameText]
        cases host.readText memory pointer length with
        | error fault =>
            rfl
        | ok message =>
            rfl
      all_goals rfl

end Leaving

end Host

/-! ## Faults of callbacks -/

/-- A result that fails with the fault of a callback, if it fails. -/
def Tells {α : Type} (result : Except Fault α) : Prop :=
  ∀ fault, result = .error fault → (Cause.failed fault).Told

namespace Tells

variable {α β ε : Type}

theorem ok (value : α) : Tells (.ok value) := by
  rintro fault ⟨⟩

theorem error {fault : Fault} (told : (Cause.failed fault).Told) :
    Tells (.error fault : Except Fault α) := by
  rintro _ ⟨⟩
  exact told

theorem bind {first : Except Fault α} {next : α → Except Fault β}
    (tells : Tells first) (tellsNext : ∀ value, Tells (next value)) :
    Tells (first >>= next) := by
  cases first with
  | error fault =>
      exact .error (tells fault rfl)
  | ok value =>
      exact tellsNext value

theorem mapError {result : Except ε α} {describe : ε → Fault}
    (told : ∀ reason, (Cause.failed (describe reason)).Told) :
    Tells (result.mapError describe) := by
  cases result with
  | error reason =>
      exact .error (told reason)
  | ok value =>
      exact .ok value

theorem misuse (misuse : CallbackMisuse) :
    Tells (.error misuse.fault : Except Fault α) := by
  cases misuse with
  | absentElement handle =>
      exact .error (.inr rfl)
  | _ =>
      exact .error (.inl rfl)

theorem handle {result : Except HandleTable.Misuse α} :
    Tells (result.mapError HandleTable.Misuse.fault) :=
  .mapError fun misuse => .inl (of_decide_eq_true misuse.fault_isContract)

theorem readText (host : Host) (memory : Memory) (pointer length : UInt32) :
    Tells (host.readText memory pointer length) := by
  unfold Host.readText
  split
  · exact .mapError fun _ => .inl rfl
  · exact .misuse _

theorem page {page : Page} {id markup : String} :
    Tells (page.setInnerHtml id markup) := by
  refine .bind ?_ fun _ => .ok _
  unfold Page.slotOf
  split
  · exact .ok _
  · exact .error (.inr rfl)

end Tells

theorem Host.getElementById_tells (host : Host) (memory : Memory)
    (document pointer length : UInt32) :
    Tells (host.getElementById memory document pointer length) := by
  refine .bind .handle fun value => ?_
  cases value with
  | document =>
      exact .bind (.readText _ _ _ _) fun _ => .ok _
  | _ =>
      exact .misuse _

theorem Host.setInnerHtml_tells (host : Host) (memory : Memory)
    (element pointer length : UInt32) :
    Tells (host.setInnerHtml memory element pointer length) := by
  refine .bind .handle fun value => ?_
  cases value with
  | element id =>
      exact .bind (.readText _ _ _ _) fun _ => .bind .page fun _ => .ok _
  | _ =>
      exact .misuse _

/-- A callback that fails tells of the page or of a broken contract. -/
theorem Host.answer_tells (host : Host) (memory : Memory)
    (function : HostFunction) (arguments : List UInt32) :
    Tells (host.answer memory function arguments) := by
  unfold Host.answer
  split
  · exact .ok _
  · exact .bind (host.getElementById_tells _ _ _ _) fun _ => .ok _
  · exact .bind (host.setInnerHtml_tells _ _ _ _) fun _ => .ok _
  · exact .bind (.bind .handle fun _ => .ok _) fun _ => .ok _
  · exact .bind (.bind .handle fun _ => .ok _) fun _ => .ok _
  · exact .bind (.readText _ _ _ _) fun _ => .ok _
  · exact .ok _

/-! ## Calls into a module -/

namespace Host

/-- Two hosts that differ in their causes only: the first one has those of
earlier calls, the second one has none. -/
def Hides (failure : Option Fault) (thrown : Option String)
    (host other : Host) : Prop :=
  host = other.leave failure thrown ∧ other.blank = other

/-- What two such hosts come to when a call ends early. -/
def LeavesAfter (earlier : Cause) (host other : Host) : Prop :=
  host.cause = earlier.followedBy other.cause ∧ other.cause.Told

theorem Hides.leavesAfter {failure : Option Fault} {thrown : Option String}
    {host other : Host} (hides : Hides failure thrown host other) :
    LeavesAfter (.left failure thrown) host other := by
  obtain ⟨rfl, blank⟩ := hides
  rw [← blank]
  exact ⟨(Cause.followedBy_plain _).symm, trivial⟩

theorem blank_of_answer {host after : Host} (blank : host.blank = host)
    {memory : Memory} {function : HostFunction} {arguments : List UInt32}
    {values : List UInt32}
    (answered : host.answer memory function arguments =
      .ok (.results values after)) :
    after.blank = after := by
  have same := answer_leave host none none memory function arguments
  rw [← Host.blank, blank, answered] at same
  injection same with same
  injection same with _ same
  exact same.symm

theorem hostCalls_alike (bindings : List HostFunction)
    (failure : Option Fault) (thrown : Option String) :
    AnswerAlike (hostCalls bindings) (hostCalls bindings)
      (Hides failure thrown) (LeavesAfter (.left failure thrown)) := by
  rintro function arguments memory host other ⟨rfl, blank⟩
  unfold hostCalls
  cases bindings[function]? with
  | none =>
      exact .gaveUp (Hides.leavesAfter ⟨rfl, blank⟩)
  | some callback =>
      have tells := other.answer_tells memory callback (arguments.map word)
      simp only [call, answer_leave]
      cases answered : other.answer memory callback (arguments.map word) with
      | error fault =>
          refine .gaveUp ⟨?_, tells fault answered⟩
          cases failure with
          | none | some =>
              cases thrown with
              | none | some =>
                  rfl
      | ok reply =>
          cases reply with
          | results values after =>
              exact .answered _ ⟨rfl, blank_of_answer blank answered⟩
          | threw message =>
              rw [← blank]
              refine .gaveUp ⟨?_, trivial⟩
              cases failure with
              | none | some =>
                  cases thrown with
                  | none | some =>
                      rfl

end Host

namespace Instance

variable {μ ς : Type} [Runtime μ ς]

/-- What a call of a function leaves behind by itself. -/
def causeOf (running : Instance μ ς) (function : Nat)
    (arguments : List UInt32) : Cause :=
  ((invoke function arguments).run
    { running with host := running.host.blank }).2.host.cause

variable [LawfulRuntime μ]

/-- A call does the same whatever earlier calls have left behind. -/
theorem invoke_blank (running : Instance μ ς) (function : Nat)
    (arguments : List UInt32) :
    ∃ outcome left other,
      ((invoke function arguments).run running).1 = outcome ∧
      ((invoke function arguments).run running).2.host = left ∧
      ((invoke function arguments).run
        { running with host := running.host.blank }).2.host = other ∧
      LeftAlike (Host.Hides running.host.failure running.host.thrown)
        (Host.LeavesAfter running.host.cause) outcome left other := by
  have related : Host.Hides running.host.failure running.host.thrown
      running.host running.host.blank :=
    ⟨rfl, rfl⟩
  obtain ⟨outcome, after, left, other, ran, ranBlank, alike⟩ :=
    invoke_alike running.module
      (Host.hostCalls_alike running.bindings _ _) related running.budget
      function (arguments.map .i32) running.store
  refine ⟨outcome, left, other, ?_, ?_, ?_, alike⟩
  · exact congrArg Prod.fst ran
  · exact congrArg (·.2.2) ran
  · exact congrArg (·.2.2) ranBlank

/-- What a call leaves behind on top of what earlier calls have left. -/
theorem cause_invoke (running : Instance μ ς) (function : Nat)
    (arguments : List UInt32) :
    ((invoke function arguments).run running).2.host.cause =
        running.host.cause.followedBy
          (running.causeOf function arguments) ∧
      (running.causeOf function arguments).Told := by
  obtain ⟨outcome, left, other, -, sameLeft, sameOther, alike⟩ :=
    running.invoke_blank function arguments
  rw [causeOf, sameLeft, sameOther]
  rcases alike with hides | ⟨-, leaves⟩
  · exact hides.leavesAfter
  · exact leaves

/-- A call that returns leaves nothing behind. -/
theorem causeOf_of_done {running : Instance μ ς} {function : Nat}
    {arguments : List UInt32} {results : List Value}
    (done : ((invoke function arguments).run running).1 = .done results) :
    running.causeOf function arguments = .plain := by
  obtain ⟨outcome, left, other, sameOutcome, -, sameOther, alike⟩ :=
    running.invoke_blank function arguments
  rw [causeOf, sameOther]
  rcases alike with ⟨-, blank⟩ | ⟨trapped, -⟩
  · rw [← blank]
    rfl
  · rw [← sameOutcome, done] at trapped
    cases trapped

end Instance

end KeymapViewer
