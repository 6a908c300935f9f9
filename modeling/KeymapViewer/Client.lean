import KeymapViewer.Instance
import KeymapViewer.Ledger

/-!
Rendering keymaps with a module. Every string that a render passes in is given
back before the render ends, whether it succeeds or not.
-/

namespace KeymapViewer

open Wasm

/-- A guest that draws keymaps on a page. -/
class Renderer (σ : Type) extends Guest σ where
  page : σ → Page
  setPage (page : Page) : σ → σ
  /-- Forgets what earlier calls left behind. -/
  beginCall : σ → σ
  enter (arguments : List UInt32) : StateM σ Outcome
  /-- Takes the cause of a call of the render function that did not return.
  The cause is what the callbacks have left behind by now. -/
  takeCause (entry : String) (reason : Trap) : StateM σ Fault

instance {μ ς : Type} [Runtime μ ς] : Renderer (Instance μ ς) where
  page running := running.host.page
  setPage page running := { running with host := { running.host with page } }
  beginCall running := { running with host := running.host.beginCall }
  enter arguments := do Instance.invoke (← get).entry arguments
  takeCause entry reason := do
    let running ← get
    set { running with host := running.host.forgetCause }
    return running.host.callFault entry reason.message

structure Client (σ : Type := Instance) where
  contract : Contract
  ledger : Ledger
  running : σ

inductive EntryFault where
  | fillsPage (entry : String)
  | nullPointer (entry : String)
  deriving DecidableEq, Repr

def EntryFault.fault : EntryFault → Fault
  | .fillsPage entry =>
    (Fault.module (s!"'{entry}' writes into the page itself, " ++
      "render it into an element instead")).withDetail .exportName entry
  | .nullPointer entry =>
    (Fault.contract s!"'{entry}' returned a null pointer").withDetail
      .exportName entry

namespace Client

section Starting

variable {ς : Type}

/-- Checks, compiles and starts a module on a page, where a call into the
module may take so many steps. -/
def instantiateWith (budget : Nat) (binary : Text.Bytes)
    (entryName : Option String) (page : Page) (μ : Type := Module)
    [Runtime μ ς] : Except Fault (Client (Instance μ ς)) := do
  (Contract.validate binary μ).mapError ModuleFault.fault
  let module ← (Contract.compile binary μ).mapError ModuleFault.fault
  let contract ←
    (Contract.read module binary entryName).mapError ModuleFault.fault
  let running ←
    (Instance.start module contract page budget).mapError StartFault.fault
  return ⟨contract, .empty, running⟩

def instantiate (binary : Text.Bytes) (entryName : Option String)
    (page : Page) (μ : Type := Module) [Runtime μ ς] :
    Except Fault (Client (Instance μ ς)) :=
  instantiateWith defaultBudget binary entryName page μ

/-- The number of host values that the module still holds handles to. -/
def liveHandles {μ : Type} (client : Client (Instance μ ς)) : Nat :=
  client.running.host.handles.liveCount

end Starting

def outstanding (client : Client σ) : Nat := client.ledger.outstanding

section Rendering

variable {σ : Type} [Renderer σ]

def page (client : Client σ) : Page := Renderer.page client.running

def setPage (client : Client σ) (page : Page) : Client σ :=
  { client with running := Renderer.setPage page client.running }

/-! ## Rendering -/

/-- The result of a step, which does not end the render when it fails. -/
def attempt (step : Exchange σ α) : Exchange σ (Except Fault α) :=
  tryCatch (Except.ok <$> step) (fun fault => pure (.error fault))

def beginCall : Exchange σ Unit :=
  Exchange.call (modify Renderer.beginCall)

def callEntry (arguments : List UInt32) : Exchange σ Outcome :=
  Exchange.call (liftM (Renderer.enter arguments : StateM σ Outcome))

def failEntry (entry : String) (reason : Trap) : Exchange σ α := do
  let cause ← Exchange.call
    (liftM (Renderer.takeCause entry reason : StateM σ Fault))
  throw cause

def ofResult (result : Except Fault α) : Exchange σ α :=
  match result with
  | .ok value => pure value
  | .error fault => throw fault

/-- Calls a render function that returns a text. The text is freed even when
giving back the input failed. -/
def renderText (entry text : String) : Exchange σ String := do
  beginCall
  let input ← Exchange.writeString text .nul
  let outcome ← callEntry [input.pointer]
  let released ← attempt (Exchange.release input)
  match outcome with
  | .trap reason => failEntry entry reason
  | .done results =>
    let output := (results.head?.map Host.word).getD 0
    if output = 0 then
      ofResult released
      throw (EntryFault.nullPointer entry).fault
    let markup ← attempt (Exchange.takeCString output)
    ofResult released
    ofResult markup

/-- Gives strings back, all of them even if one fails, and fails with the
first fault. -/
def releaseAll : List GuestString → Exchange σ Unit
  | [] => return ()
  | string :: rest => do
    let first ← attempt (Exchange.release string)
    let others ← attempt (releaseAll rest)
    ofResult first
    ofResult others

/-- Calls a render function that fills an element of the page. -/
def renderElement (entry text id : String) : Exchange σ Unit := do
  beginCall
  let contents ← Exchange.writeString text .none
  let target ←
    try
      Exchange.writeString id .none
    catch fault =>
      Exchange.release contents
      throw fault
  let outcome ← callEntry
    [contents.pointer, contents.length, target.pointer, target.length]
  let released ← attempt (releaseAll [contents, target])
  match outcome with
  | .trap reason => failEntry entry reason
  | .done _ => ofResult released

def perform (client : Client σ) (render : Exchange σ α) :
    Except Fault α × Client σ :=
  let (result, ledger, running) := render.perform client.ledger client.running
  (result, { client with ledger, running })

/-- The markup that the module draws for a text. -/
def renderMarkup (client : Client σ) (text : String) :
    Except Fault String × Client σ :=
  let entry := client.contract.entry
  match client.contract.abi with
  | .bindgen => (.error (EntryFault.fillsPage entry).fault, client)
  | .cString => client.perform (renderText entry text)

def renderInto (client : Client σ) (text id : String) :
    Except Fault Unit × Client σ :=
  if !client.page.contains id then (.error (.missingElement id), client)
  else
    match client.contract.abi with
    | .bindgen =>
      client.perform (renderElement client.contract.entry text id)
    | .cString =>
      match client.renderMarkup text with
      | (.error fault, client) => (.error fault, client)
      | (.ok markup, client) =>
        match client.page.setInnerHtml id markup with
        | .ok page => (.ok (), client.setPage page)
        | .error fault => (.error fault, client)

end Rendering

end Client

end KeymapViewer
