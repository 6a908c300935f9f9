import KeymapViewer.Wasm.Machine
import Mathlib.Order.Nat

/-!
Runs in pieces. One configuration reaches another when every run that gets
to the first one goes on to the second one, at the cost of a bounded number
of steps; pieces are put together, and a piece that ends gives the result of
the whole run.
-/

namespace KeymapViewer.Wasm

/-- A function of the module's own. -/
structure Defines (module : Module) (function : Nat) (type : FuncType)
    (code : Code) : Prop where
  typed : module.functionType? function = some type
  own : module.importedFunctions.length ≤ function
  coded : module.code? function = some code

/-- A function that is bound to the host. -/
structure Imports (module : Module) (function : Nat) (type : FuncType) :
    Prop where
  typed : module.functionType? function = some type
  imported : function < module.importedFunctions.length

variable {η : Type} {module : Module} {calls : HostCalls η}

namespace Config

/-- A run comes from one configuration to the other in so many steps at
most. -/
def Reaches (module : Module) (calls : HostCalls η) (bound : Nat)
    (start finish : Config η) : Prop :=
  ∃ steps ≤ bound, ∀ budget,
    start.run module calls (budget + steps) = finish.run module calls budget

namespace Reaches

variable {start middle finish : Config η} {first second : Nat}

theorem refl : Reaches module calls 0 start start :=
  ⟨0, Nat.le_refl 0, fun _ => rfl⟩

theorem trans (before : Reaches module calls first start middle)
    (after : Reaches module calls second middle finish) :
    Reaches module calls (first + second) start finish := by
  obtain ⟨steps, few, same⟩ := before
  obtain ⟨more, fewMore, sameMore⟩ := after
  refine ⟨steps + more, Nat.add_le_add few fewMore, fun budget => ?_⟩
  rw [Nat.add_comm steps more, ← Nat.add_assoc, same, sameMore]

theorem mono (reaches : Reaches module calls first start finish)
    (larger : first ≤ second) : Reaches module calls second start finish := by
  obtain ⟨steps, few, same⟩ := reaches
  exact ⟨steps, Nat.le_trans few larger, same⟩

theorem of_step (next : start.step module calls = .next finish) :
    Reaches module calls 1 start finish :=
  ⟨1, Nat.le_refl 1, fun budget => by rw [run, next]⟩

/-- A run that comes to its end within its budget gives what it ends with. -/
theorem run_eq (reaches : Reaches module calls first start finish)
    {outcome : Outcome} {store : Store} {host : η}
    (ends : finish.step module calls = .stop outcome store host)
    {budget : Nat} (enough : first < budget) :
    start.run module calls budget = (outcome, store, host) := by
  obtain ⟨steps, few, same⟩ := reaches
  obtain ⟨rest, rfl⟩ : ∃ rest, budget = rest + 1 + steps :=
    ⟨budget - 1 - steps, by omega⟩
  rw [same, run, ends]

/-! ## Steps on words and on the memory

What these steps put on the stack is named by the one who applies them, so
that no sum of words is ever taken apart to compare configurations. -/

section Memory

variable {before after : Store} {address word count : UInt32}
  {width : Width} {place : MemArg} {locals operands : List Value}
  {code : List Instr} {labels : List Label} {callers : List Frame}
  {arity memory : Nat} {host : η}

theorem binary {op : BinaryOp} {first second : UInt32}
    (applied : op.apply first second = .ok word) :
    Reaches module calls 1
      ⟨before, host, ⟨arity, locals, .i32 second :: .i32 first :: operands,
        .binary op :: code, labels⟩, callers⟩
      ⟨before, host, ⟨arity, locals, .i32 word :: operands, code, labels⟩,
        callers⟩ :=
  .of_step (by simp only [step, instr, applied, goOn])

theorem i32Eqz {answer : UInt32}
    (tested : BinaryOp.ofBool (word == 0) = answer) :
    Reaches module calls 1
      ⟨before, host, ⟨arity, locals, .i32 word :: operands,
        .i32Eqz :: code, labels⟩, callers⟩
      ⟨before, host, ⟨arity, locals, .i32 answer :: operands, code, labels⟩,
        callers⟩ :=
  .of_step (by simp only [step, instr, tested, goOn])

theorem load (loaded : before.load? width place.offset address = some word) :
    Reaches module calls 1
      ⟨before, host, ⟨arity, locals, .i32 address :: operands,
        .load width place :: code, labels⟩, callers⟩
      ⟨before, host, ⟨arity, locals, .i32 word :: operands, code, labels⟩,
        callers⟩ :=
  .of_step (by simp only [step, instr, loaded, goOn])

theorem store
    (stored : before.store? width place.offset address word = some after) :
    Reaches module calls 1
      ⟨before, host, ⟨arity, locals, .i32 word :: .i32 address :: operands,
        .store width place :: code, labels⟩, callers⟩
      ⟨after, host, ⟨arity, locals, operands, code, labels⟩, callers⟩ :=
  .of_step (by simp only [step, instr, stored])

theorem memoryGrow (grown : before.grow count = (word, after)) :
    Reaches module calls 1
      ⟨before, host, ⟨arity, locals, .i32 count :: operands,
        .memoryGrow memory :: code, labels⟩, callers⟩
      ⟨after, host, ⟨arity, locals, .i32 word :: operands, code, labels⟩,
        callers⟩ :=
  .of_step (by simp only [step, instr, grown])

end Memory

end Reaches

end Config

/-! ## Calls -/

section Calls

variable {function bound : Nat} {type : FuncType} {body : Code}
  {store after : Store} {host answered : η}

namespace Config.Reaches

variable {arity : Nat} {locals operands : List Value} {code : List Instr}
  {labels : List Label} {callers : List Frame}

/-- The arguments are taken from the caller, which waits for the call. -/
theorem call (arguments : List Value)
    (defines : Defines module function type body)
    (count : arguments.length = type.parameters.length)
    (shallow : callers.length < maxCallDepth) :
    Reaches module calls 1
      ⟨store, host, ⟨arity, locals, arguments ++ operands,
        .call function :: code, labels⟩, callers⟩
      ⟨store, host, .ofCall type body arguments,
        ⟨arity, locals, operands, code, labels⟩ :: callers⟩ := by
  refine .of_step ?_
  simp only [step, instr, Config.call, defines.typed, defines.coded, ← count,
    List.take_left, List.drop_left, Nat.not_lt_of_le defines.own,
    Nat.not_le_of_lt shallow, if_false]

/-- A call that comes to its end hands its results to its caller. -/
theorem ret {caller : Frame} :
    Reaches module calls 1
      ⟨store, host, ⟨arity, locals, operands, [], []⟩, caller :: callers⟩
      ⟨store, host, { caller with
        operands := operands.take arity ++ caller.operands }, callers⟩ :=
  .of_step rfl

theorem hostCall (arguments : List Value)
    (imports : Imports module function type)
    (count : arguments.length = type.parameters.length)
    {results : List Value}
    (answers : calls function arguments.reverse store.memory host =
      (some results, answered)) :
    Reaches module calls 1
      ⟨store, host, ⟨arity, locals, arguments ++ operands,
        .call function :: code, labels⟩, callers⟩
      ⟨store, answered, ⟨arity, locals, results.reverse ++ operands, code,
        labels⟩, callers⟩ := by
  refine .of_step ?_
  simp only [step, instr, Config.call, imports.typed, ← count,
    List.take_left, List.drop_left, imports.imported, if_true, answers]

end Config.Reaches

/-- A call from outside that stops within the budget. -/
theorem invoke_eq_of_stop (arguments : List Value)
    (defines : Defines module function type body)
    {finish : Config η} {outcome : Outcome}
    (stops : finish.step module calls = .stop outcome after answered)
    (reaches : Config.Reaches module calls bound
      ⟨store, host, .ofCall type body arguments.reverse, []⟩ finish)
    {budget : Nat} (enough : bound < budget) :
    invoke module calls budget function arguments store host =
      (outcome, after, answered) := by
  simp only [invoke, defines.typed, defines.coded,
    Nat.not_lt_of_le defines.own, if_false]
  exact reaches.run_eq stops enough

/-- A call from outside that comes to its end within the budget. -/
theorem invoke_eq_done (arguments : List Value)
    (defines : Defines module function type body)
    {arity : Nat} {locals operands : List Value}
    (ends : Config.Reaches module calls bound
      ⟨store, host, .ofCall type body arguments.reverse, []⟩
      ⟨after, answered, ⟨arity, locals, operands, [], []⟩, []⟩)
    {budget : Nat} (enough : bound < budget) :
    invoke module calls budget function arguments store host =
      (.done (operands.take arity), after, answered) :=
  invoke_eq_of_stop arguments defines rfl ends enough

end Calls

end KeymapViewer.Wasm
