import KeymapViewer.Memory.Basic
import KeymapViewer.Wasm.Module

/-!
Running modules. A configuration is a stack of calls over a store and a host;
a step carries out one instruction, and a run repeats steps until the first
call returns, the machine traps, or its budget of steps is used up.

The machine knows the instructions of `Instr` and nothing else: it is enough
for the modules that this program writes itself, and it is one of the runtimes
that a keymap module can run on.
-/

namespace KeymapViewer.Wasm

inductive Trap where
  | unreachable
  | outOfBounds
  | divisionByZero
  | divisionOverflow
  | callDepth
  /-- The host gave up during a call of the module. -/
  | host
  | outOfBudget
  /-- The code does what no valid module does. -/
  | stuck
  /-- A reason that only other runtimes have. -/
  | other (message : String)
  deriving DecidableEq, Repr

def Trap.message : Trap → String
  | .unreachable => "unreachable"
  | .outOfBounds => "out of bounds memory access"
  | .divisionByZero => "integer divide by zero"
  | .divisionOverflow => "integer overflow"
  | .callDepth => "call stack exhausted"
  | .host => "host call failed"
  | .outOfBudget => "all steps used up"
  | .stuck => "invalid code"
  | .other message => message

/-- The part of a module instance that its code changes. -/
structure Store where
  memory : Memory
  /-- The most pages that the memory may grow to. -/
  pageLimit : Nat
  globals : List Value

/-- How a host answers the call of an imported function: with results, or by
giving up. Either way the host may have changed. -/
abbrev HostCalls (η : Type) : Type :=
  Nat → List Value → Memory → η → Option (List Value) × η

/-! ## Operations -/

namespace BinaryOp

def ofBool (condition : Bool) : UInt32 := if condition then 1 else 0

/-- The result for a first and a second operand. Shifts use the second one
modulo 32. -/
def apply (op : BinaryOp) (first second : UInt32) : Except Trap UInt32 :=
  match op with
  | .eq => .ok (ofBool (first == second))
  | .gtU => .ok (ofBool (second < first))
  | .add => .ok (first + second)
  | .sub => .ok (first - second)
  | .mul => .ok (first * second)
  | .divS =>
    if second = 0 then .error .divisionByZero
    else if first.toInt32 = Int32.minValue ∧ second.toInt32 = -1 then
      .error .divisionOverflow
    else .ok (first.toInt32 / second.toInt32).toUInt32
  | .and => .ok (first &&& second)
  | .shl => .ok (first <<< (second % 32))
  | .shrU => .ok (first >>> (second % 32))

end BinaryOp

namespace Store

def pages (store : Store) : Nat := store.memory.size / pageSize

/-- The place of an access of so many bytes, if it lies inside the memory. -/
def place? (store : Store) (address : UInt32) (offset bytes : Nat) :
    Option Nat :=
  let place := address.toNat + offset
  if place + bytes ≤ store.memory.size then some place else none

/-- The word that little-endian bytes write. -/
def wordOf (bytes : Text.Bytes) : UInt32 :=
  bytes.foldr (fun byte word => byte.toUInt32 + 256 * word) 0

/-- The lowest bytes of a word, the lowest first. -/
def bytesOf : Nat → UInt32 → Text.Bytes
  | 0, _ => []
  | count + 1, word => word.toUInt8 :: bytesOf count (word / 256)

def load? (store : Store) (width : Width) (offset : Nat) (address : UInt32) :
    Option UInt32 :=
  (store.place? address offset width.bytes).map fun place =>
    wordOf (store.memory.read place width.bytes)

def store? (store : Store) (width : Width) (offset : Nat)
    (address word : UInt32) : Option Store :=
  (store.place? address offset width.bytes).map fun place =>
    { store with memory := store.memory.write place (bytesOf width.bytes word) }

/-- Grows the memory by pages of zeros. The result is the number of pages
before, or -1 and the old store when the limit does not allow it. -/
def grow (store : Store) (count : UInt32) : UInt32 × Store :=
  let pages := store.pages + count.toNat
  if pages ≤ store.pageLimit then
    (store.pages.toUInt32,
      { store with memory := { store.memory with size := pages * pageSize } })
  else
    (-1, store)

end Store

/-! ## Configurations -/

/-- An enclosing block. -/
structure Label where
  arity : Nat
  /-- The code that a branch goes on with. -/
  target : List Instr
  /-- The code after the block. -/
  after : List Instr
  /-- The operands below those of the block. -/
  below : List Value
  deriving Repr

/-- A call of a function of the module. -/
structure Frame where
  arity : Nat
  locals : List Value
  /-- The operands of the innermost block, the last one first. -/
  operands : List Value
  /-- The rest of the innermost block. -/
  code : List Instr
  /-- The enclosing blocks, the innermost first. -/
  labels : List Label
  deriving Repr

structure Config (η : Type) where
  store : Store
  host : η
  frame : Frame
  /-- The calls that wait for the current one, the innermost first. -/
  callers : List Frame

inductive Outcome where
  | done (results : List Value)
  | trap (reason : Trap)
  deriving DecidableEq, Repr

inductive Progress (η : Type) where
  | next (config : Config η)
  | stop (outcome : Outcome) (store : Store) (host : η)

/-- The most calls that can wait for each other. -/
def maxCallDepth : Nat := 32768

namespace Frame

def push (frame : Frame) (value : Value) : Frame :=
  { frame with operands := value :: frame.operands }

def enter (frame : Frame) (arity : Nat) (target body : List Instr) : Frame :=
  { frame with
    operands := []
    code := body
    labels := ⟨arity, target, frame.code, frame.operands⟩ :: frame.labels }

def leave (frame : Frame) (label : Label) (outer : List Label) : Frame :=
  { frame with
    operands := frame.operands ++ label.below
    code := label.after
    labels := outer }

/-- Goes to the target of an enclosing block, or out of all of them. -/
def branch? (frame : Frame) (label : Nat) : Option Frame :=
  match frame.labels.drop label with
  | target :: outer =>
    some { frame with
      operands := frame.operands.take target.arity ++ target.below
      code := target.target
      labels := outer }
  | [] => none

/-- The frame of a call with the given arguments, the last one first. -/
def ofCall (type : FuncType) (code : Code) (arguments : List Value) : Frame :=
  { arity := type.results.length
    locals := arguments.reverse ++ code.locals.flatMap fun (count, type) =>
      List.replicate count type.zero
    operands := []
    code := code.body
    labels := [] }

end Frame

namespace Config

variable {η : Type}

def stop (config : Config η) (outcome : Outcome) : Progress η :=
  .stop outcome config.store config.host

def trap (config : Config η) (reason : Trap) : Progress η :=
  config.stop (.trap reason)

def goOn (config : Config η) (frame : Frame) : Progress η :=
  .next { config with frame }

/-- Ends the current call with the values on top of its operands. -/
def ret (config : Config η) : Progress η :=
  let results := config.frame.operands.take config.frame.arity
  match config.callers with
  | [] => config.stop (.done results)
  | caller :: callers =>
    .next { config with
      frame := { caller with operands := results ++ caller.operands }
      callers }

/-- Goes to an enclosing block; the outermost is the function itself. -/
def branch (config : Config η) (frame : Frame) (label : Nat) : Progress η :=
  match frame.branch? label with
  | some frame => config.goOn frame
  | none => ret { config with frame }

def call (module : Module) (calls : HostCalls η) (config : Config η)
    (frame : Frame) (function : Nat) : Progress η :=
  match module.functionType? function with
  | none => config.trap .stuck
  | some type =>
    let count := type.parameters.length
    let arguments := frame.operands.take count
    let frame := { frame with operands := frame.operands.drop count }
    if function < module.importedFunctions.length then
      match calls function arguments.reverse config.store.memory
          config.host with
      | (some results, host) =>
        .next { config with
          host
          frame := { frame with
            operands := results.reverse ++ frame.operands } }
      | (none, host) => .stop (.trap .host) config.store host
    else
      match module.code? function with
      | none => config.trap .stuck
      | some code =>
        if maxCallDepth ≤ config.callers.length then config.trap .callDepth
        else
          .next { config with
            frame := .ofCall type code arguments
            callers := frame :: config.callers }

def instr (module : Module) (calls : HostCalls η) (config : Config η)
    (frame : Frame) (item : Instr) : Progress η :=
  match item, frame.operands with
  | .unreachable, _ => config.trap .unreachable
  | .nop, _ => config.goOn frame
  | .block result body, _ =>
    config.goOn (frame.enter result.toList.length frame.code body)
  | .loop result body, _ =>
    config.goOn (frame.enter 0 (.loop result body :: frame.code) body)
  | .ifElse result yes no, .i32 condition :: rest =>
    let frame := { frame with operands := rest }
    config.goOn (frame.enter result.toList.length frame.code
      (if condition = 0 then no else yes))
  | .br label, _ => config.branch frame label
  | .brIf label, .i32 condition :: rest =>
    let frame := { frame with operands := rest }
    if condition = 0 then config.goOn frame else config.branch frame label
  | .ret, _ => ret { config with frame }
  | .call function, _ => config.call module calls frame function
  | .drop, _ :: rest => config.goOn { frame with operands := rest }
  | .localGet index, _ =>
    match frame.locals[index]? with
    | some value => config.goOn (frame.push value)
    | none => config.trap .stuck
  | .localSet index, value :: rest =>
    config.goOn { frame with
      locals := frame.locals.set index value, operands := rest }
  | .localTee index, value :: _ =>
    config.goOn { frame with locals := frame.locals.set index value }
  | .globalGet index, _ =>
    match config.store.globals[index]? with
    | some value => config.goOn (frame.push value)
    | none => config.trap .stuck
  | .globalSet index, value :: rest =>
    .next { config with
      store := { config.store with
        globals := config.store.globals.set index value }
      frame := { frame with operands := rest } }
  | .load width place, .i32 address :: rest =>
    match config.store.load? width place.offset address with
    | some word => config.goOn { frame with operands := .i32 word :: rest }
    | none => config.trap .outOfBounds
  | .store width place, .i32 word :: .i32 address :: rest =>
    match config.store.store? width place.offset address word with
    | some store =>
      .next { config with store, frame := { frame with operands := rest } }
    | none => config.trap .outOfBounds
  | .memorySize _, _ =>
    config.goOn (frame.push (.i32 config.store.pages.toUInt32))
  | .memoryGrow _, .i32 count :: rest =>
    let (before, store) := config.store.grow count
    .next { config with
      store, frame := { frame with operands := .i32 before :: rest } }
  | .i32Const word, _ => config.goOn (frame.push (.i32 word))
  | .i32Eqz, .i32 word :: rest =>
    config.goOn { frame with
      operands := .i32 (BinaryOp.ofBool (word == 0)) :: rest }
  | .binary op, .i32 second :: .i32 first :: rest =>
    match op.apply first second with
    | .ok word => config.goOn { frame with operands := .i32 word :: rest }
    | .error reason => config.trap reason
  | _, _ => config.trap .stuck

/-- One step: the next instruction, the end of a block, or the end of the
current call. -/
def step (module : Module) (calls : HostCalls η) (config : Config η) :
    Progress η :=
  match config.frame.code, config.frame.labels with
  | item :: rest, _ =>
    config.instr module calls { config.frame with code := rest } item
  | [], label :: outer => config.goOn (config.frame.leave label outer)
  | [], [] => config.ret

def run (module : Module) (calls : HostCalls η) :
    Nat → Config η → Outcome × Store × η
  | 0, config => (.trap .outOfBudget, config.store, config.host)
  | budget + 1, config =>
    match config.step module calls with
    | .next config => run module calls budget config
    | .stop outcome store host => (outcome, store, host)

end Config

/-- Calls a function from outside: one of the module's own, or an imported
one that the module only passes on. -/
def invoke {η : Type} (module : Module) (calls : HostCalls η) (budget : Nat)
    (function : Nat) (arguments : List Value) (store : Store) (host : η) :
    Outcome × Store × η :=
  match module.functionType? function with
  | none => (.trap .stuck, store, host)
  | some type =>
    if function < module.importedFunctions.length then
      match calls function arguments store.memory host with
      | (some results, host) => (.done results, store, host)
      | (none, host) => (.trap .host, store, host)
    else
      match module.code? function with
      | none => (.trap .stuck, store, host)
      | some code =>
        Config.run module calls budget
          ⟨store, host, .ofCall type code arguments.reverse, []⟩

/-! ## Instantiation -/

namespace Module

/-- The value of a constant expression. No module that is instantiated
imports globals, and none that is compiled computes with constants. -/
def constValue : ConstExpr → Value
  | .const value => value
  | .globalGet _ | .arithmetic .. => .i32 0

/-- The store before data segments are put in place. -/
def initialStore (module : Module) : Store :=
  let memory := module.allMemories.head?
  let limits := (memory.map (·.limits)).getD ⟨0, none⟩
  { memory := .new (limits.min * pageSize) 0
    pageLimit := limits.max.getD maxPages
    globals := module.globals.map (constValue ·.value) }

/-- Puts a data segment into memory, if it fits. -/
def placeData (store : Store) (segment : DataSegment) : Except Trap Store :=
  match segment.place.map (constValue ·.offset) with
  | none => .ok store
  | some (.i32 offset) =>
    if offset.toNat + segment.bytes.length ≤ store.memory.size then
      .ok { store with
        memory := store.memory.write offset.toNat segment.bytes }
    else .error .outOfBounds
  | some _ => .error .stuck

/-- The store of a new instance, after its start function has run. -/
def instantiate {η : Type} (module : Module) (calls : HostCalls η)
    (budget : Nat) (host : η) : Except Trap Store × η :=
  match module.data.foldlM placeData module.initialStore with
  | .error reason => (.error reason, host)
  | .ok store =>
    match module.start with
    | none => (.ok store, host)
    | some function =>
      match invoke module calls budget function [] store host with
      | (.done _, store, host) => (.ok store, host)
      | (.trap reason, _, host) => (.error reason, host)

end Module

end KeymapViewer.Wasm
