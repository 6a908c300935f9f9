import KeymapViewer.Host
import KeymapViewer.Proofs.Page.Edit

/-!
Callbacks step by step. Here a callback changes the host as it goes along, and
a fault undoes nothing of it. All checks come before the first change, so this
is no different from changes that are made in the end, if at all.
-/

namespace KeymapViewer

open Wasm

namespace Host

/-- Steps on a host. What one of them has changed stays so when a later one
fails. -/
abbrev Steps (α : Type) : Type := ExceptT Fault (StateM Host) α

namespace Steps

variable {α β : Type}

def perform (steps : Steps α) (host : Host) : Except Fault α × Host :=
  steps.run.run host

def look (inspect : Host → Except Fault α) : Steps α :=
  ExceptT.mk fun host => (inspect host, host)

def changeHandles (change : HandleTable → HandleTable) : Steps Unit :=
  modify fun host => { host with handles := change host.handles }

/-- There is no change to a page that is broken. -/
def changePage (change : Page → Option Page) : Steps Unit :=
  modify fun host => { host with page := (change host.page).getD host.page }

def store (value : HostValue) : Steps Handle :=
  modifyGet fun host =>
    let (handle, handles) := host.handles.add value
    (handle, { host with handles })

/-! ## The callbacks -/

def release (handle : Handle) : Steps Unit := do
  if handle.isSingleton then return ()
  else if handle.isStack then
    throw (HandleTable.Misuse.releasedStack handle).fault
  else
    match (← get).handles.occupant? handle.entry with
    | none => throw (HandleTable.Misuse.stale handle).fault
    | some (value, count) =>
      if 1 < count then
        changeHandles (·.setSlot handle.entry (.occupied value (count - 1)))
      else
        changeHandles fun table =>
          table.setSlot handle.entry (.vacant table.freeHead)
        changeHandles ({ · with freeHead := some handle.entry })

def clone (handle : Handle) : Steps Handle := do
  if handle.isSingleton then return handle
  else if handle.isStack then
    store (← look (·.resolve handle))
  else
    match (← get).handles.occupant? handle.entry with
    | some (value, count) =>
      changeHandles (·.setSlot handle.entry (.occupied value (count + 1)))
      return handle
    | none => throw (HandleTable.Misuse.stale handle).fault

def getElementById (memory : Memory) (document pointer length : UInt32) :
    Steps UInt32 := do
  match ← look (·.resolve ⟨document⟩) with
  | .document =>
    let id ← look (·.readText memory pointer length)
    let known := (← get).page.contains id
    let found ← store (if known then .element id else .null)
    return found.raw
  | other => throw (CallbackMisuse.notDocument other ⟨document⟩).fault

def setInnerHtml (memory : Memory) (element pointer length : UInt32) :
    Steps Unit := do
  match ← look (·.resolve ⟨element⟩) with
  | .element id =>
    let markup ← look (·.readText memory pointer length)
    let slot ← look (·.page.slotOf id)
    changePage (·.clearBelow? slot)
    changePage (·.appendMarkup? slot markup)
    changePage (·.reindex?)
  | .null => throw (CallbackMisuse.absentElement ⟨element⟩).fault
  | other => throw (CallbackMisuse.notElement other ⟨element⟩).fault

/-- What comes of a callback: words for the module, or the message that the
module has thrown. -/
def callback (memory : Memory) (function : HostFunction)
    (arguments : List UInt32) : Steps (Except String (List UInt32)) := do
  match function, arguments with
  | .documentAccessor, _ => return .ok [(← store .document).raw]
  | .getElementById, [document, pointer, length] =>
    return .ok [← getElementById memory document pointer length]
  | .setInnerHtml, [element, pointer, length] =>
    setInnerHtml memory element pointer length
    return .ok []
  | .objectDropRef, [handle] =>
    release ⟨handle⟩
    return .ok []
  | .objectCloneRef, [handle] => return .ok [(← clone ⟨handle⟩).raw]
  | .throw, [pointer, length] =>
    return .error (← look (·.readText memory pointer length))
  | _, _ => return .ok []

/-- A callback that fails or throws leaves its host with the reason. -/
def conclude :
    Except Fault (Except String (List UInt32)) × Host →
      Option (List Value) × Host
  | (.ok (.ok values), host) => (some (values.map .i32), host)
  | (.ok (.error message), host) => (none, { host with thrown := some message })
  | (.error fault, host) => (none, { host with failure := some fault })

/-! ## Carrying out steps -/

@[simp]
theorem perform_pure (value : α) (host : Host) :
    (pure value : Steps α).perform host = (.ok value, host) :=
  rfl

@[simp]
theorem perform_throw (fault : Fault) (host : Host) :
    (throw fault : Steps α).perform host = (.error fault, host) :=
  rfl

@[simp]
theorem perform_bind (first : Steps α) (next : α → Steps β) (host : Host) :
    (first >>= next).perform host =
      match first.perform host with
      | (.ok value, after) => (next value).perform after
      | (.error fault, after) => (.error fault, after) := by
  simp only [perform, ExceptT.run_bind, StateT.run_bind]
  rcases first.run.run host with ⟨fault | value, after⟩
  · rfl
  · rfl

@[simp]
theorem perform_get (host : Host) :
    (get : Steps Host).perform host = (.ok host, host) :=
  rfl

@[simp]
theorem perform_look (inspect : Host → Except Fault α) (host : Host) :
    (look inspect).perform host = (inspect host, host) :=
  rfl

@[simp]
theorem perform_changeHandles (change : HandleTable → HandleTable)
    (host : Host) :
    (changeHandles change).perform host =
      (.ok (), { host with handles := change host.handles }) :=
  rfl

@[simp]
theorem perform_changePage (change : Page → Option Page) (host : Host) :
    (changePage change).perform host =
      (.ok (), { host with page := (change host.page).getD host.page }) :=
  rfl

@[simp]
theorem perform_store (value : HostValue) (host : Host) :
    (store value).perform host =
      (.ok (host.handles.add value).1,
        { host with handles := (host.handles.add value).2 }) :=
  rfl

/-! ## Changes in the end -/

/-- What is left of a host when all changes come with the result. -/
def settle (host : Host) : Except Fault (α × Host) → Except Fault α × Host
  | .ok (value, after) => (.ok value, after)
  | .error fault => (.error fault, host)

variable (host : Host) (memory : Memory)

theorem perform_release (handle : UInt32) :
    (release ⟨handle⟩).perform host =
      settle host ((host.objectDropRef handle).map ((), ·)) := by
  unfold release objectDropRef HandleTable.release
  by_cases fixed : Handle.isSingleton ⟨handle⟩ = true
  · simp only [fixed, ↓reduceIte, perform_pure]
    rfl
  by_cases borrowed : Handle.isStack ⟨handle⟩ = true
  · simp only [fixed, borrowed, Bool.false_eq_true, ↓reduceIte, perform_throw]
    rfl
  simp only [fixed, borrowed, Bool.false_eq_true, ↓reduceIte, perform_bind,
    perform_get]
  cases host.handles.occupant? (Handle.entry ⟨handle⟩) with
  | none =>
      rfl
  | some held =>
      obtain ⟨value, count⟩ := held
      by_cases shared : 1 < count
      · simp only [shared, ↓reduceIte, perform_changeHandles]
        rfl
      · simp only [shared, ↓reduceIte, perform_bind, perform_changeHandles]
        rfl

theorem perform_clone (handle : UInt32) :
    (clone ⟨handle⟩).perform host =
      settle host ((host.handles.clone ⟨handle⟩).mapError
          HandleTable.Misuse.fault |>.map fun (copy, handles) =>
        (copy, { host with handles })) := by
  unfold clone HandleTable.clone
  by_cases fixed : Handle.isSingleton ⟨handle⟩ = true
  · simp only [fixed, ↓reduceIte, perform_pure]
    rfl
  by_cases borrowed : Handle.isStack ⟨handle⟩ = true
  · simp only [fixed, borrowed, Bool.false_eq_true, ↓reduceIte, perform_bind,
      perform_look, Host.resolve, HandleTable.resolve]
    cases host.handles.stack[Handle.index ⟨handle⟩]? with
    | none =>
        rfl
    | some value =>
        rfl
  simp only [fixed, borrowed, Bool.false_eq_true, ↓reduceIte, perform_bind,
    perform_get]
  cases host.handles.occupant? (Handle.entry ⟨handle⟩) with
  | none =>
      rfl
  | some held =>
      rfl

theorem perform_getElementById (document pointer length : UInt32) :
    (getElementById memory document pointer length).perform host =
      settle host (host.getElementById memory document pointer length) := by
  simp only [getElementById, Host.getElementById, perform_bind, perform_look]
  cases host.resolve ⟨document⟩ with
  | error fault =>
      rfl
  | ok value =>
      cases value with
      | document =>
          simp only [perform_bind, perform_look, perform_get, perform_store]
          cases host.readText memory pointer length with
          | error fault =>
              rfl
          | ok id =>
              rfl
      | _ =>
          rfl

/-- The three parts of a replacement are made one after another. -/
theorem replaceBelow?_eq_some {page after : Page} {slot : Nat}
    {markup : String}
    (replaced : page.replaceBelow? slot markup = some after) :
    ∃ cleared filled, page.clearBelow? slot = some cleared ∧
      cleared.appendMarkup? slot markup = some filled ∧
      filled.reindex? = some after := by
  unfold Page.replaceBelow? at replaced
  obtain ⟨cleared, emptied, rest⟩ := Option.bind_eq_some_iff.mp replaced
  obtain ⟨filled, grown, indexed⟩ := Option.bind_eq_some_iff.mp rest
  exact ⟨cleared, filled, emptied, grown, indexed⟩

theorem perform_setInnerHtml {layouts : List Page.Layout}
    (draws : host.page.Draws layouts) (element pointer length : UInt32) :
    (setInnerHtml memory element pointer length).perform host =
      settle host ((host.setInnerHtml memory element pointer length).map
        ((), ·)) := by
  simp only [setInnerHtml, Host.setInnerHtml, perform_bind, perform_look]
  cases host.resolve ⟨element⟩ with
  | error fault =>
      rfl
  | ok value =>
      cases value with
      | element id =>
          simp only [perform_bind, perform_look, perform_changePage]
          cases host.readText memory pointer length with
          | error fault =>
              rfl
          | ok markup =>
              cases known : host.page.slotOf id with
              | error fault =>
                  have refused : host.page.setInnerHtml id markup =
                      .error fault := by
                    rw [Page.setInnerHtml, known]
                    rfl
                  simp only [bind, Except.bind, refused, known]
                  rfl
              | ok slot =>
                  obtain ⟨own, below, found⟩ :=
                    Page.isElement_of_slotOf draws known
                  obtain ⟨after, -, replaced, -⟩ :=
                    draws.replaceBelow? found markup
                  obtain ⟨cleared, filled, emptied, grown, indexed⟩ :=
                    replaceBelow?_eq_some replaced
                  have done : host.page.setInnerHtml id markup =
                      .ok after := by
                    simp only [Page.setInnerHtml, known, bind, Except.bind,
                      replaced]
                    rfl
                  simp only [bind, Except.bind, known, done, emptied, grown,
                    indexed, Option.getD_some]
                  rfl
      | _ =>
          rfl

/-- A callback that fails has changed nothing by then. -/
theorem conclude_callback {layouts : List Page.Layout}
    (draws : host.page.Draws layouts) (function : HostFunction)
    (arguments : List Value) :
    conclude ((callback memory function (arguments.map word)).perform host) =
      Host.call function arguments memory host := by
  unfold Host.call
  generalize arguments.map word = words
  unfold callback
  split
  · rfl
  · rename_i document pointer length
    simp only [perform_bind, perform_getElementById, Host.answer]
    cases host.getElementById memory document pointer length with
    | error fault =>
        rfl
    | ok found =>
        rfl
  · rename_i element pointer length
    simp only [perform_bind, perform_setInnerHtml host memory draws,
      Host.answer]
    cases host.setInnerHtml memory element pointer length with
    | error fault =>
        rfl
    | ok after =>
        rfl
  · rename_i handle
    simp only [perform_bind, perform_release, Host.answer]
    cases host.objectDropRef handle with
    | error fault =>
        rfl
    | ok after =>
        rfl
  · rename_i handle
    simp only [perform_bind, perform_clone, Host.answer, objectCloneRef]
    cases host.handles.clone ⟨handle⟩ with
    | error misuse =>
        rfl
    | ok copied =>
        rfl
  · rename_i pointer length
    simp only [perform_bind, perform_look, Host.answer]
    cases host.readText memory pointer length with
    | error fault =>
        rfl
    | ok message =>
        rfl
  · rw [Host.answer]
    · rfl
    all_goals assumption

end Steps

end Host

end KeymapViewer
