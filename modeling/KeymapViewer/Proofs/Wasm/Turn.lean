import KeymapViewer.Proofs.Wasm.Lawful
import Mathlib.Tactic.Choose

/-!
The machine is a lawful runtime. What a step does is the same for all hosts,
but for a call of an imported function, whose answer the host decides; so the
steps of a call make up a run.
-/

namespace KeymapViewer.Wasm

variable {η : Type}

/-- What a step of the machine does, whatever its host. -/
inductive Turn where
  | next (store : Store) (frame : Frame) (callers : List Frame)
  | stop (outcome : Outcome) (store : Store)
  | call (function : Nat) (arguments : List Value) (store : Store)
    (resume : List Value → Frame) (callers : List Frame)

/-- The step over a host. -/
def Turn.take (calls : HostCalls η) (host : η) : Turn → Progress η
  | .next store frame callers => .next ⟨store, host, frame, callers⟩
  | .stop outcome store => .stop outcome store host
  | .call function arguments store resume callers =>
    match calls function arguments store.memory host with
    | (some results, host) => .next ⟨store, host, resume results, callers⟩
    | (none, host) => .stop (.trap .host) store host

namespace Config

/-- A step, as a function of the host, is a turn. -/
def IsTurn
    (step : ∀ η : Type, HostCalls η → η → Progress η) : Prop :=
  ∃ turn : Turn, ∀ (η : Type) (calls : HostCalls η) (host : η),
    step η calls host = turn.take calls host

variable (module : Module) (store : Store) (frame : Frame)
  (callers : List Frame)

theorem isTurn_next :
    IsTurn fun _ _ host => .next ⟨store, host, frame, callers⟩ :=
  ⟨.next store frame callers, fun _ _ _ => rfl⟩

theorem isTurn_stop (outcome : Outcome) :
    IsTurn fun _ _ host => .stop outcome store host :=
  ⟨.stop outcome store, fun _ _ _ => rfl⟩

theorem isTurn_ret :
    IsTurn fun _ _ host => ret ⟨store, host, frame, callers⟩ := by
  cases callers with
  | nil =>
      exact isTurn_stop store (.done (frame.operands.take frame.arity))
  | cons caller rest =>
      exact isTurn_next store { caller with
        operands := frame.operands.take frame.arity ++ caller.operands } rest

theorem isTurn_branch (next : Frame) (label : Nat) :
    IsTurn fun _ _ host =>
      branch ⟨store, host, frame, callers⟩ next label := by
  unfold branch
  cases next.branch? label with
  | none =>
      exact isTurn_ret store next callers
  | some target =>
      exact isTurn_next store target callers

/-- The only instruction that the host takes part in. -/
theorem isTurn_call (next : Frame) (function : Nat) :
    IsTurn fun _ calls host =>
      call module calls ⟨store, host, frame, callers⟩ next function := by
  unfold call
  cases module.functionType? function with
  | none =>
      exact isTurn_stop store _
  | some type =>
      simp only
      split
      · exact ⟨.call function
          (next.operands.take type.parameters.length).reverse store _ callers,
          fun _ _ _ => rfl⟩
      · cases module.code? function with
        | none =>
            exact isTurn_stop store _
        | some code =>
            simp only
            split
            · exact isTurn_stop store _
            · exact isTurn_next store _ _

theorem isTurn_instr (next : Frame) (item : Instr) :
    IsTurn fun _ calls host =>
      instr module calls ⟨store, host, frame, callers⟩ next item := by
  obtain ⟨arity, locals, operands, code, labels⟩ := next
  cases item with
  | call function =>
      exact isTurn_call module store frame callers _ function
  | br label =>
      exact isTurn_branch store frame callers _ label
  | ret =>
      exact isTurn_ret store _ callers
  | brIf label =>
      rcases operands with _ | ⟨_ | _ | _ | _ | _ | _, rest⟩
      case cons.i32 condition =>
        simp only [instr]
        split
        · exact isTurn_next store _ callers
        · exact isTurn_branch store frame callers _ label
      all_goals exact isTurn_stop store _
  | localGet index =>
      simp only [instr]
      cases locals[index]? with
      | none =>
          exact isTurn_stop store _
      | some value =>
          exact isTurn_next store _ callers
  | globalGet index =>
      simp only [instr]
      cases store.globals[index]? with
      | none =>
          exact isTurn_stop store _
      | some value =>
          exact isTurn_next store _ callers
  | load width place =>
      rcases operands with _ | ⟨_ | _ | _ | _ | _ | _, rest⟩
      case cons.i32 address =>
        simp only [instr]
        cases store.load? width place.offset address with
        | none =>
            exact isTurn_stop store _
        | some word =>
            exact isTurn_next store _ callers
      all_goals exact isTurn_stop store _
  | store width place =>
      rcases operands with
        _ | ⟨_ | _ | _ | _ | _ | _,
          _ | ⟨_ | _ | _ | _ | _ | _, rest⟩⟩
      case cons.i32.cons.i32 word address =>
        simp only [instr]
        cases store.store? width place.offset address word with
        | none =>
            exact isTurn_stop store _
        | some after =>
            exact isTurn_next after _ callers
      all_goals exact isTurn_stop store _
  | binary op =>
      rcases operands with
        _ | ⟨_ | _ | _ | _ | _ | _,
          _ | ⟨_ | _ | _ | _ | _ | _, rest⟩⟩
      case cons.i32.cons.i32 second first =>
        simp only [instr]
        cases op.apply first second with
        | error reason =>
            exact isTurn_stop store _
        | ok word =>
            exact isTurn_next store _ callers
      all_goals exact isTurn_stop store _
  | _ =>
      rcases operands with _ | ⟨_ | _ | _ | _ | _ | _, rest⟩
      all_goals
        dsimp only [instr, goOn, trap, stop]
        first
          | exact isTurn_next _ _ _
          | exact isTurn_stop _ _

theorem exists_turn :
    ∃ turn : Turn, ∀ (η : Type) (calls : HostCalls η) (host : η),
      step module calls ⟨store, host, frame, callers⟩ =
        turn.take calls host := by
  obtain ⟨arity, locals, operands, code, labels⟩ := frame
  cases code with
  | cons item rest =>
      exact isTurn_instr module store ⟨arity, locals, operands, item :: rest,
        labels⟩ callers ⟨arity, locals, operands, rest, labels⟩ item
  | nil =>
      cases labels with
      | nil =>
          exact isTurn_ret store _ callers
      | cons label outer =>
          exact isTurn_next store
            (Frame.leave ⟨arity, locals, operands, [], label :: outer⟩ label
              outer) callers

/-- The steps up to the end of the budget are a run. -/
theorem exists_run (budget : Nat) :
    ∃ tree : Run Store, ∀ (η : Type) (calls : HostCalls η) (host : η),
      run module calls budget ⟨store, host, frame, callers⟩ =
        tree.answer Store.memory calls host := by
  induction budget generalizing store frame callers with
  | zero =>
      exact ⟨.stop (.trap .outOfBudget) store, fun _ _ _ => rfl⟩
  | succ budget inductionHypothesis =>
      obtain ⟨turn, taken⟩ := exists_turn module store frame callers
      simp only [run]
      cases turn with
      | next store frame callers =>
          obtain ⟨tree, same⟩ := inductionHypothesis store frame callers
          refine ⟨tree, fun η calls host => ?_⟩
          rw [taken]
          exact same η calls host
      | stop outcome store =>
          refine ⟨.stop outcome store, fun η calls host => ?_⟩
          rw [taken]
          rfl
      | call function arguments store resume callers =>
          choose tree same using fun results =>
            inductionHypothesis store (resume results) callers
          refine ⟨.call function arguments store tree,
            fun η calls host => ?_⟩
          rw [taken]
          simp only [Turn.take, Run.answer]
          rcases calls function arguments store.memory host with
            ⟨_ | results, left⟩
          · rfl
          · exact same results η calls left

end Config

theorem exists_run_invoke (module : Module) (budget function : Nat)
    (arguments : List Value) (store : Store) :
    ∃ run : Run Store, ∀ (η : Type) (calls : HostCalls η) (host : η),
      invoke module calls budget function arguments store host =
        run.answer Store.memory calls host := by
  unfold invoke
  cases module.functionType? function with
  | none =>
      exact ⟨.stop (.trap .stuck) store, fun _ _ _ => rfl⟩
  | some type =>
      simp only
      split
      · refine ⟨.call function arguments store fun results =>
          .stop (.done results) store, fun η calls host => ?_⟩
        rcases answered : calls function arguments store.memory host with
          ⟨_ | results, left⟩
        · simp only [Run.answer, answered]
        · simp only [Run.answer, answered]
      · cases module.code? function with
        | none =>
            exact ⟨.stop (.trap .stuck) store, fun _ _ _ => rfl⟩
        | some code =>
            exact Config.exists_run module store _ [] budget

theorem exists_run_instantiate (module : Module) (budget : Nat) :
    ∃ run : Run Store, ∀ (η : Type) (calls : HostCalls η) (host : η),
      module.instantiate calls budget host =
        Run.started (run.answer Store.memory calls host) := by
  unfold Module.instantiate
  cases module.data.foldlM Module.placeData module.initialStore with
  | error reason =>
      exact ⟨.stop (.trap reason) module.initialStore, fun _ _ _ => rfl⟩
  | ok store =>
      cases module.start with
      | none =>
          exact ⟨.stop (.done []) store, fun _ _ _ => rfl⟩
      | some function =>
          obtain ⟨run, ran⟩ :=
            exists_run_invoke module budget function [] store
          refine ⟨run, fun η calls host => ?_⟩
          simp only [ran]
          rcases run.answer Store.memory calls host with
            ⟨results | reason, after, left⟩
          · rfl
          · rfl

instance : LawfulRuntime Module where
  memory_write _ _ _ := rfl
  exists_run_invoke := exists_run_invoke
  exists_run_instantiate := exists_run_instantiate

end KeymapViewer.Wasm
