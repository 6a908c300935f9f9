import KeymapViewer.Proofs.Page.Edit
import KeymapViewer.Proofs.Stub.EchoRun
import KeymapViewer.Proofs.Stub.FillRender

/-!
Two ways into a module that come to the same. The stub that returns a copy of
its input and the one that fills the element itself leave the same page behind,
and nothing else.
-/

namespace KeymapViewer

open Text Wasm Stub

namespace Stub

theorem importsCallbacks_bindgenModule : ImportsCallbacks bindgenModule :=
  ⟨⟨rfl, by decide⟩, ⟨rfl, by decide⟩, ⟨rfl, by decide⟩, ⟨rfl, by decide⟩⟩

theorem fills_started {budget : Nat} (enough : 32 < budget) (page : Page) :
    Fills (started bindgenModule fillBindings ⟨5, 6, none⟩ 7 budget page)
      heapStart.toNat := by
  have alloc : Defines bindgenModule 5 (type 1 1) allocCode :=
    ⟨rfl, by decide, rfl⟩
  have dealloc : Defines bindgenModule 6 (type 2 0) nothingCode :=
    ⟨rfl, by decide, rfl⟩
  have entry : Defines bindgenModule 7 (type 4 0) (setMarkupCode 0 1 2 3) :=
    ⟨rfl, by decide, rfl⟩
  exact {
    heap := hasHeap_initialStore rfl rfl
    alloc
    dealloc
    budget := enough
    bindings := rfl
    imports := importsCallbacks_bindgenModule
    entry }

end Stub

namespace Client

/-! ## One render -/

variable {client : Client} {heap : Nat} {text id : String} {page : Page}

theorem renderInto_missing (missing : client.page.contains id = false) :
    client.renderInto text id = (.error (.missingElement id), client) := by
  rw [Client.renderInto, missing, Bool.not_false, if_pos rfl]

theorem Echoing.renderInto (echoing : Echoing client heap)
    (fits : echoEnd heap text ≤ heapLimit)
    (enough : echoSteps (byteLength (upToNul text)) <
      client.running.budget)
    (known : client.page.contains id = true)
    (changed : client.page.setInnerHtml id (upToNul text) = .ok page) :
    ∃ after : Client, client.renderInto text id = (.ok (), after) ∧
      after.page = page ∧ after.ledger.live = [] ∧
      after.running.host.handles =
        client.running.host.handles.clearStack := by
  obtain ⟨after, answered, -, -, host, echoingAfter⟩ :=
    echoing.renderMarkup fits enough
  have samePage : after.page = client.page :=
    (congrArg Host.page host).trans rfl
  refine ⟨after.setPage page, ?_, rfl, echoingAfter.clean, ?_⟩
  · simp only [Client.renderInto, known, Bool.not_true, Bool.false_eq_true,
      if_false, echoing.abi, answered, samePage, changed]
  · exact congrArg Host.handles host

/-- A new client of the stub that fills an element. -/
structure Filling (client : Client) (heap : Nat) : Prop where
  abi : client.contract.abi = .bindgen
  clean : client.ledger.live = []
  fills : Fills client.running heap
  unused : client.running.host.handles = .empty
  ready : client.running.host.memoryReady = true

theorem Filling.renderInto (filling : Filling client heap)
    (fits : textEnd (textEnd heap text) id ≤ heapLimit)
    (known : client.page.contains id = true)
    (changed : client.page.setInnerHtml id text = .ok page) :
    ∃ after : Client, client.renderInto text id = (.ok (), after) ∧
      after.page = page ∧ after.ledger.live = [] ∧
      after.running.host.handles = allDropped := by
  obtain ⟨ledger, performed, empty⟩ := perform_renderElement
    filling.fills fits filling.unused filling.ready known changed
    client.contract.entry filling.clean
  have recorded : client.record.renderInto text id = (.ok (),
      { client with
        ledger
        running := ⟨client.running.resume
          (withTexts client.running.store heap text id)
          { client.running.host.beginCall with page, handles := allDropped },
          fillCalls heap text id⟩ }) := by
    have sameAbi : client.record.contract.abi = .bindgen := filling.abi
    have samePage : client.record.page = client.page := rfl
    simp only [Client.renderInto, samePage, known, Bool.not_true,
      Bool.false_eq_true, if_false, sameAbi, Client.perform]
    rw [show (Client.renderElement client.record.contract.entry text
      id).perform client.record.ledger client.record.running = _
        from performed]
    rfl
  obtain ⟨sameAnswer, sameClient⟩ :=
    Client.renderInto_inside client.record text id
  have answered : client.renderInto text id = (.ok (),
      { client with
        ledger
        running := client.running.resume
          (withTexts client.running.store heap text id)
          { client.running.host.beginCall with
            page, handles := allDropped } }) := by
    rw [recorded] at sameAnswer sameClient
    exact Prod.ext sameAnswer.symm sameClient.symm
  exact ⟨_, answered, rfl, empty, rfl⟩

theorem exists_filling (page : Page) :
    ∃ client : Client,
      Client.instantiate (Kind.binary .bindgen) none page = .ok client ∧
        client.page = page ∧ Filling client heapStart.toNat := by
  obtain ⟨contract, abi, instantiated⟩ :=
    starts_bindgen.instantiateWith defaultBudget page
  exact ⟨_, instantiated, rfl, abi, rfl, fills_started (by decide) page,
    rfl, rfl⟩

/-! ## Both ways -/

/-- Two renders of a text into an element of a page that come to the same. -/
structure SameRender (page : Page) (text id : String)
    (first second : Except Fault Unit × Client) : Prop where
  missing : page.contains id = false →
    first.1 = .error (.missingElement id) ∧
      second.1 = .error (.missingElement id) ∧
      first.2.page = page ∧ second.2.page = page
  filled : page.contains id = true →
    first.1 = .ok () ∧ second.1 = .ok () ∧
      page.setInnerHtml id text = .ok first.2.page ∧
      page.setInnerHtml id text = .ok second.2.page
  toHtml : first.2.page.toHtml = second.2.page.toHtml
  elementIds : first.2.page.elementIds = second.2.page.elementIds
  outstanding : first.2.outstanding = 0 ∧ second.2.outstanding = 0
  liveHandles : first.2.liveHandles = 0 ∧ second.2.liveHandles = 0

/-- Without the element nothing happens. -/
theorem sameRender_of_missing {first second : Client}
    (pageFirst : first.page = page) (pageSecond : second.page = page)
    (cleanFirst : first.ledger.live = [])
    (cleanSecond : second.ledger.live = [])
    (unusedFirst : first.running.host.handles = .empty)
    (unusedSecond : second.running.host.handles = .empty)
    (missing : page.contains id = false) :
    SameRender page text id (first.renderInto text id)
      (second.renderInto text id) := by
  rw [renderInto_missing (pageFirst.symm ▸ missing),
    renderInto_missing (pageSecond.symm ▸ missing)]
  exact {
    missing := fun _ => ⟨rfl, rfl, pageFirst, pageSecond⟩
    filled := fun found => absurd (found.symm.trans missing) (by decide)
    toHtml := by rw [pageFirst, pageSecond]
    elementIds := by rw [pageFirst, pageSecond]
    outstanding :=
      ⟨congrArg List.length cleanFirst, congrArg List.length cleanSecond⟩
    liveHandles :=
      ⟨congrArg HandleTable.liveCount unusedFirst,
        congrArg HandleTable.liveCount unusedSecond⟩ }

/-- New clients of the stub that copies its input and of the stub that fills an
element come to the same. -/
theorem renderInto_same (page : Page) (text id : String)
    (noNul : Char.ofNat 0 ∉ text.toList)
    (fits : page.contains id = true →
      echoEnd heapStart.toNat text ≤ heapLimit ∧
        textEnd (textEnd heapStart.toNat text) id ≤ heapLimit) :
    ∃ echoing filling : Client,
      Client.instantiate (Kind.binary .cString) none page = .ok echoing ∧
        Client.instantiate (Kind.binary .bindgen) none page = .ok filling ∧
        SameRender page text id (echoing.renderInto text id)
          (filling.renderInto text id) := by
  obtain ⟨first, startedFirst, pageFirst, unused, budget, echoing⟩ :=
    exists_echoing page
  obtain ⟨second, startedSecond, pageSecond, filling⟩ := exists_filling page
  refine ⟨first, second, startedFirst, startedSecond, ?_⟩
  by_cases known : page.contains id = true
  · obtain ⟨fitsFirst, fitsSecond⟩ := fits known
    obtain ⟨changed, set⟩ := Page.exists_setInnerHtml known text
    have enough := echoSteps_lt_defaultBudget fitsFirst
    have whole : upToNul text = text := upToNul_of_notMem noNul
    obtain ⟨afterFirst, answeredFirst, changedFirst, cleanFirst, handles⟩ :=
      echoing.renderInto fitsFirst (by rwa [budget]) (by rwa [pageFirst])
        (by rwa [pageFirst, whole])
    obtain ⟨afterSecond, answeredSecond, changedSecond, cleanSecond,
        dropped⟩ :=
      filling.renderInto fitsSecond (by rwa [pageSecond])
        (by rwa [pageSecond])
    rw [answeredFirst, answeredSecond]
    exact {
      missing := fun unknown => absurd (known.symm.trans unknown) (by decide)
      filled := fun _ =>
        ⟨rfl, rfl, changedFirst.symm ▸ set, changedSecond.symm ▸ set⟩
      toHtml := by rw [changedFirst, changedSecond]
      elementIds := by rw [changedFirst, changedSecond]
      outstanding :=
        ⟨congrArg List.length cleanFirst, congrArg List.length cleanSecond⟩
      liveHandles := by
        refine ⟨?_, congrArg HandleTable.liveCount dropped⟩
        rw [liveHandles, handles, unused]
        rfl }
  · exact sameRender_of_missing pageFirst pageSecond echoing.clean
      filling.clean unused filling.unused (Bool.eq_false_iff.mpr known)

/-- A text and an element that is there. -/
theorem renderInto_same_heart :
    (Page.parse "<p id=a>old</p>").contains "a" = true ∧
      ∃ echoing filling : Client,
        Client.instantiate (Kind.binary .cString) none
            (Page.parse "<p id=a>old</p>") = .ok echoing ∧
          Client.instantiate (Kind.binary .bindgen) none
            (Page.parse "<p id=a>old</p>") = .ok filling ∧
          SameRender (Page.parse "<p id=a>old</p>") "<b>\u2665</b>" "a"
            (echoing.renderInto "<b>\u2665</b>" "a")
            (filling.renderInto "<b>\u2665</b>" "a") := by
  have noNul : Char.ofNat 0 ∉ "<b>\u2665</b>".toList := by
    decide +kernel
  have fits : echoEnd heapStart.toNat "<b>\u2665</b>" ≤ heapLimit ∧
      textEnd (textEnd heapStart.toNat "<b>\u2665</b>") "a" ≤ heapLimit := by
    decide +kernel
  exact ⟨by decide +kernel, renderInto_same _ _ _ noNul fun _ => fits⟩

end Client

end KeymapViewer
