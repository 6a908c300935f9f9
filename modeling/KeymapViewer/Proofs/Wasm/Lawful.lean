import KeymapViewer.Wasm.Runtime

/-!
Lawful runtimes. Whatever a module does is a run: a tree of calls of its host,
each followed by what the module does with the results. So a module sees of its
host nothing but the answers to its calls, and does nothing to it in any other
way; when two hosts answer alike, two runs of the module are the same but for
what they leave of their hosts.
-/

namespace KeymapViewer.Wasm

variable {μ ς η θ : Type}

/-- What a module does until it comes to an end. -/
inductive Run (ς : Type) where
  | stop (outcome : Outcome) (store : ς)
  /-- A call of an imported function, with the store by then, and what follows
  when it is answered. -/
  | call (function : Nat) (arguments : List Value) (store : ς)
    (resume : List Value → Run ς)

namespace Run

/-- What a run comes to over a host. It ends when the host gives up. -/
def answer (memory : ς → Memory) (calls : HostCalls η) :
    Run ς → η → Outcome × ς × η
  | .stop outcome store, host => (outcome, store, host)
  | .call function arguments store resume, host =>
    match calls function arguments (memory store) host with
    | (some results, host) => (resume results).answer memory calls host
    | (none, host) => (.trap .host, store, host)

/-- What the run of a start function makes of a new instance. -/
def started : Outcome × ς × η → Except Trap ς × η
  | (.done _, store, host) => (.ok store, host)
  | (.trap reason, _, host) => (.error reason, host)

end Run

/-- A runtime that keeps to what every runtime promises: memory holds what was
put there, and a module, once started or called, takes a run, which is the
same for all hosts. -/
class LawfulRuntime (μ : Type) {ς : outParam Type} [Runtime μ ς] : Prop where
  memory_write (store : ς) (place : Nat) (bytes : Text.Bytes) :
    Runtime.memory μ (Runtime.write μ store place bytes) =
      (Runtime.memory μ store).write place bytes
  exists_run_invoke (module : μ) (budget function : Nat)
    (arguments : List Value) (store : ς) :
    ∃ run : Run ς, ∀ (η : Type) (calls : HostCalls η) (host : η),
      Runtime.invoke module calls budget function arguments store host =
        run.answer (Runtime.memory μ) calls host
  exists_run_instantiate (module : μ) (budget : Nat) :
    ∃ run : Run ς, ∀ (η : Type) (calls : HostCalls η) (host : η),
      Runtime.instantiate module calls budget host =
        Run.started (run.answer (Runtime.memory μ) calls host)

/-! ## Runs over hosts that answer alike -/

/-- Two answers to one call. Hosts that answer are in the relation `going`
again, and hosts that give up end in the relation `ended`. -/
inductive SameAnswer (going ended : η → θ → Prop) :
    Option (List Value) × η → Option (List Value) × θ → Prop
  | answered (results : List Value) {host : η} {other : θ}
      (related : going host other) :
      SameAnswer going ended (some results, host) (some results, other)
  | gaveUp {host : η} {other : θ} (related : ended host other) :
      SameAnswer going ended (none, host) (none, other)

/-- Hosts in the relation `going` answer every call alike. -/
def AnswerAlike (calls : HostCalls η) (others : HostCalls θ)
    (going ended : η → θ → Prop) : Prop :=
  ∀ function arguments memory host other, going host other →
    SameAnswer going ended (calls function arguments memory host)
      (others function arguments memory other)

/-- What two runs leave of their hosts. -/
def LeftAlike (going ended : η → θ → Prop) (outcome : Outcome) (host : η)
    (other : θ) : Prop :=
  going host other ∨ outcome = .trap .host ∧ ended host other

/-- One run over two hosts. -/
theorem Run.answer_alike (memory : ς → Memory) {calls : HostCalls η}
    {others : HostCalls θ} {going ended : η → θ → Prop}
    (alike : AnswerAlike calls others going ended) (run : Run ς) {host : η}
    {other : θ} (related : going host other) :
    ∃ outcome store left leftOther,
      run.answer memory calls host = (outcome, store, left) ∧
      run.answer memory others other = (outcome, store, leftOther) ∧
      LeftAlike going ended outcome left leftOther := by
  induction run generalizing host other with
  | stop outcome store =>
      exact ⟨outcome, store, host, other, rfl, rfl, .inl related⟩
  | call function arguments store resume inductionHypothesis =>
      have answers := alike function arguments (memory store) host other
        related
      simp only [answer]
      revert answers
      generalize calls function arguments (memory store) host = given
      generalize others function arguments (memory store) other = givenOther
      rintro (⟨results, going⟩ | ended)
      · exact inductionHypothesis results going
      · exact ⟨_, _, _, _, rfl, rfl, .inr ⟨rfl, ended⟩⟩

/-- What every call of a host keeps, answered or not, a run keeps. -/
theorem Run.answer_keeps (memory : ς → Memory) {calls : HostCalls η}
    {kept : η → Prop}
    (keeps : ∀ function arguments memory host, kept host →
      kept (calls function arguments memory host).2)
    (run : Run ς) {host : η} (holds : kept host) :
    kept (run.answer memory calls host).2.2 := by
  induction run generalizing host with
  | stop outcome store =>
      exact holds
  | call function arguments store resume inductionHypothesis =>
      have after := keeps function arguments (memory store) host holds
      simp only [answer]
      revert after
      rcases calls function arguments (memory store) host with
        ⟨_ | results, left⟩
      · exact id
      · exact inductionHypothesis results

/-! ## Calls of a module -/

section Calls

variable [Runtime μ ς] [LawfulRuntime μ]

/-- Two calls of one function from outside. -/
theorem invoke_alike (module : μ) {calls : HostCalls η}
    {others : HostCalls θ} {going ended : η → θ → Prop}
    (alike : AnswerAlike calls others going ended) {host : η} {other : θ}
    (related : going host other) (budget function : Nat)
    (arguments : List Value) (store : ς) :
    ∃ outcome after left leftOther,
      Runtime.invoke module calls budget function arguments store host =
        (outcome, after, left) ∧
      Runtime.invoke module others budget function arguments store other =
        (outcome, after, leftOther) ∧
      LeftAlike going ended outcome left leftOther := by
  obtain ⟨run, ran⟩ :=
    LawfulRuntime.exists_run_invoke module budget function arguments store
  simp only [ran]
  exact run.answer_alike _ alike related

/-- A call from outside keeps what every call of the host keeps. -/
theorem invoke_keeps (module : μ) {calls : HostCalls η}
    {kept : η → Prop}
    (keeps : ∀ function arguments memory host, kept host →
      kept (calls function arguments memory host).2)
    {host : η} (holds : kept host) (budget function : Nat)
    (arguments : List Value) (store : ς) :
    kept (Runtime.invoke module calls budget function arguments store
      host).2.2 := by
  obtain ⟨run, ran⟩ :=
    LawfulRuntime.exists_run_invoke module budget function arguments store
  rw [ran]
  exact run.answer_keeps _ keeps holds

/-- So does the start of a module. -/
theorem instantiate_keeps (module : μ) {calls : HostCalls η}
    {kept : η → Prop}
    (keeps : ∀ function arguments memory host, kept host →
      kept (calls function arguments memory host).2)
    {host : η} (holds : kept host) (budget : Nat) :
    kept (Runtime.instantiate module calls budget host).2 := by
  obtain ⟨run, ran⟩ := LawfulRuntime.exists_run_instantiate module budget
  rw [ran]
  have after := run.answer_keeps (Runtime.memory μ) keeps holds
  revert after
  rcases run.answer (Runtime.memory μ) calls host with
    ⟨results | reason, store, left⟩
  · exact id
  · exact id

end Calls

end KeymapViewer.Wasm
