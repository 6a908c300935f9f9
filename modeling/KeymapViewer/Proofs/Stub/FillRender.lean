import KeymapViewer.Proofs.Stub.EchoRender
import KeymapViewer.Proofs.Stub.SetMarkup

/-!
Renders with the stub that fills an element. The text and the id of the
element come one after the other at the heap end, and the callbacks read them
from there.
-/

namespace KeymapViewer

open Text Wasm Exchange

namespace Stub

/-- An instance whose render function fills an element. -/
structure Fills (running : Instance) (heap : Nat) : Prop
    extends Hosts running heap where
  bindings : running.bindings = fillBindings
  imports : ImportsCallbacks running.module
  entry : Defines running.module running.entry (type 4 0)
    (setMarkupCode 0 1 2 3)

variable {running : Instance} {heap : Nat} {text id : String}

theorem Fills.resume (fills : Fills running heap) {store : Store}
    {after : Nat} (has : HasHeap store after) (host : Host) :
    Fills (running.resume store host) after :=
  { fills with heap := has }

/-! ## Texts in their blocks -/

theorem holdsText_withText {store : Store} (has : HasHeap store heap)
    (fits : textEnd heap text ≤ heapLimit) :
    (withText store heap text .none).memory.HoldsText heap text := by
  have room := lt_textEnd heap text
  have enough : textEnd heap text ≤ _ := (has.moveHeap fits).inside
  rw [withText, memory_placed]
  exact .write (room.le.trans enough)

/-- A text stays as it is when another one is put behind it. -/
theorem holdsText_withText_after {store : Store} {place : Nat}
    (holds : store.memory.HoldsText place text)
    (before : place + byteLength text ≤ heap) (other : String)
    (terminator : Terminator) :
    (withText store heap other terminator).memory.HoldsText place text := by
  rw [withText, memory_placed]
  exact (holds.grow (Nat.le_max_left ..)).write_after before _

/-- The store once the text and the id are in place. -/
def withTexts (store : Store) (heap : Nat) (text id : String) : Store :=
  withText (withText store heap text .none) (textEnd heap text) id .none

theorem HasHeap.withTexts {store : Store} (has : HasHeap store heap)
    (fits : textEnd (textEnd heap text) id ≤ heapLimit) :
    HasHeap (withTexts store heap text id)
      (textEnd (textEnd heap text) id) :=
  (has.withText ((Nat.le_add_right ..).trans fits) .none).withText fits .none

/-- The blocks of the text and of the id are two. -/
theorem toUInt32_textEnd_ne (fits : textEnd heap text ≤ heapLimit) :
    (textEnd heap text).toUInt32 ≠ heap.toUInt32 := by
  have limit := heapLimit_eq
  have word := wordCount_word
  have room := lt_textEnd heap text
  have pointer : heap.toUInt32.toNat = heap := toNat_toUInt32 (by omega)
  have target : (textEnd heap text).toUInt32.toNat = textEnd heap text :=
    toNat_toUInt32 (by omega)
  intro same
  have sameNat := congrArg UInt32.toNat same
  omega

/-! ## Calls of a render -/

/-- The render function finds the text and the id where they were put. -/
theorem run_enter_fill (fills : Fills running heap)
    (fits : textEnd (textEnd heap text) id ≤ heapLimit) {host : Host}
    {page : Page} (unused : host.handles = .empty)
    (ready : host.memoryReady = true)
    (known : host.page.contains id = true)
    (changed : host.page.setInnerHtml id text = .ok page) :
    (Renderer.enter [heap.toUInt32, (byteLength text).toUInt32,
          (textEnd heap text).toUInt32, (byteLength id).toUInt32] :
        StateM Instance Outcome).run
          (running.resume (withTexts running.store heap text id) host) =
      (.done [], running.resume (withTexts running.store heap text id)
        { host with page, handles := allDropped }) := by
  have fitsText : textEnd heap text ≤ heapLimit :=
    (Nat.le_add_right ..).trans fits
  have small : (withTexts running.store heap text id).memory.size <
      wordCount 32 :=
    lt_of_le_of_lt (fills.heap.withTexts fits).small (by decide)
  have readText : (withTexts running.store heap text id).memory.readText
      heap.toUInt32 (byteLength text).toUInt32 = .ok text :=
    (holdsText_withText_after (holdsText_withText fills.heap fitsText)
      (lt_textEnd heap text).le id .none).readText small
  have readId : (withTexts running.store heap text id).memory.readText
      (textEnd heap text).toUInt32 (byteLength id).toUInt32 = .ok id :=
    (holdsText_withText (fills.heap.withText fitsText .none) fits).readText
      small
  have ends : Config.Reaches running.module (hostCalls running.bindings) 15
      _ _ :=
    fills.bindings ▸ setMarkup_reaches_end fills.imports unused ready known
      readText readId changed []
  have enough : 15 < running.budget :=
    lt_trans (by decide) fills.budget
  exact run_invoke_machine ((invoke_eq_done
    [.i32 heap.toUInt32, .i32 (byteLength text).toUInt32,
      .i32 (textEnd heap text).toUInt32, .i32 (byteLength id).toUInt32]
    fills.entry ends enough).trans rfl)

/-- Both blocks of a render are given back. -/
theorem perform_releaseAll_hosts (hosts : Hosts running heap)
    (first second : GuestString) {ledger : Ledger}
    (both : ledger.live = [(second.pointer, second.capacity),
      (first.pointer, first.capacity)])
    (differs : second.pointer ≠ first.pointer) :
    ∃ after : Ledger,
      (∀ calls, (Client.releaseAll [first, second]).perform ledger
          (⟨running, calls⟩ : Recorded Instance) =
        (.ok (), after,
          ⟨running, calls ++ [.dealloc first.pointer first.capacity] ++
            [.dealloc second.pointer second.capacity]⟩)) ∧
      after.live = [] := by
  have other : (first.pointer == second.pointer) = false :=
    beq_eq_false_iff_ne.mpr differs.symm
  have known : ledger.capacity? first.pointer = some first.capacity := by
    simp [Ledger.capacity?, both, List.lookup_cons, other]
  obtain ⟨between, releasedFirst, only⟩ : ∃ between : Ledger,
      (∀ calls, (release first).perform ledger
          (⟨running, calls⟩ : Recorded Instance) =
        (.ok (), between,
          ⟨running, calls ++ [.dealloc first.pointer first.capacity]⟩)) ∧
      between.live = [(second.pointer, second.capacity)] := by
    refine ⟨_, perform_release_hosts hosts known, ?_⟩
    simp [Ledger.forget, both, differs]
  obtain ⟨after, releasedSecond, empty⟩ :=
    perform_release_only hosts second only
  refine ⟨after, fun calls => ?_, empty⟩
  simp only [Client.releaseAll, perform_bind, Client.perform_attempt,
    releasedFirst, releasedSecond, Client.perform_ofResult, perform_pure]

/-! ## Renders -/

/-- The calls of a render: a block for the text and one for the id, the render
function, and both blocks given back. -/
def fillCalls (heap : Nat) (text id : String) : List GuestCall :=
  [.alloc (blockSize text) (some heap.toUInt32),
    .alloc (blockSize id) (some (textEnd heap text).toUInt32),
    .enter [heap.toUInt32, (byteLength text).toUInt32,
      (textEnd heap text).toUInt32, (byteLength id).toUInt32],
    .dealloc heap.toUInt32 (blockSize text),
    .dealloc (textEnd heap text).toUInt32 (blockSize id)]

/-- A render puts the text into the element. -/
theorem perform_renderElement (fills : Fills running heap)
    (fits : textEnd (textEnd heap text) id ≤ heapLimit) {page : Page}
    (unused : running.host.handles = .empty)
    (ready : running.host.memoryReady = true)
    (known : running.host.page.contains id = true)
    (changed : running.host.page.setInnerHtml id text = .ok page)
    (entry : String) {ledger : Ledger} (clean : ledger.live = []) :
    ∃ after : Ledger,
      (Client.renderElement entry text id).perform ledger
          (⟨running, []⟩ : Recorded Instance) =
        (.ok (), after,
          ⟨running.resume (withTexts running.store heap text id)
              { running.host.beginCall with page, handles := allDropped },
            fillCalls heap text id⟩) ∧
      after.live = [] := by
  have fitsText : textEnd heap text ≤ heapLimit :=
    (Nat.le_add_right ..).trans fits
  have begun : Fills (Renderer.beginCall running) heap :=
    fills.resume fills.heap running.host.beginCall
  have filled : Fills (running.resume (withTexts running.store heap text id)
      { running.host.beginCall with page, handles := allDropped }) _ :=
    fills.resume (fills.heap.withTexts fits) _
  -- The ledger holds the first block when the second one comes.
  have differs : (textEnd heap text).toUInt32 ≠ heap.toUInt32 :=
    toUInt32_textEnd_ne fitsText
  have other : ((textEnd heap text).toUInt32 == heap.toUInt32) = false :=
    beq_eq_false_iff_ne.mpr differs
  have fresh : ledger.holds heap.toUInt32 = false := by
    simp [Ledger.holds, Ledger.capacity?, clean]
  have freshTarget : (ledger.record heap.toUInt32 (blockSize text)).holds
      (textEnd heap text).toUInt32 = false := by
    simp only [Ledger.holds, Ledger.capacity?, Ledger.record, clean,
      List.lookup_cons, other, List.lookup_nil, Option.isSome_none]
  have both : ((ledger.record heap.toUInt32 (blockSize text)).record
      (textEnd heap text).toUInt32 (blockSize id)).live =
        [((textEnd heap text).toUInt32, blockSize id),
          (heap.toUInt32, blockSize text)] := by
    simp only [Ledger.record, clean]
  have written : (writeString text .none).perform ledger
      (⟨Renderer.beginCall running, []⟩ : Recorded Instance) =
      (.ok ⟨heap.toUInt32, (byteLength text).toUInt32, blockSize text,
          .none⟩,
        ledger.record heap.toUInt32 (blockSize text),
        ⟨running.resume (withText running.store heap text .none)
            running.host.beginCall,
          [.alloc (blockSize text) (some heap.toUInt32)]⟩) :=
    perform_writeString_hosts begun.toHosts fitsText .none fresh []
  have writtenTarget : (writeString id .none).perform
      (ledger.record heap.toUInt32 (blockSize text))
      (⟨running.resume (withText running.store heap text .none)
          running.host.beginCall,
        [.alloc (blockSize text) (some heap.toUInt32)]⟩ :
          Recorded Instance) =
      (.ok ⟨(textEnd heap text).toUInt32, (byteLength id).toUInt32,
          blockSize id, .none⟩,
        (ledger.record heap.toUInt32 (blockSize text)).record
          (textEnd heap text).toUInt32 (blockSize id),
        ⟨running.resume (withTexts running.store heap text id)
            running.host.beginCall,
          [.alloc (blockSize text) (some heap.toUInt32),
            .alloc (blockSize id) (some (textEnd heap text).toUInt32)]⟩) :=
    perform_writeString_hosts
      (fills.resume (fills.heap.withText fitsText _) _).toHosts fits .none
      freshTarget _
  have unusedStill : running.host.beginCall.handles = .empty := by
    rw [Host.beginCall, unused]
    rfl
  have entered := run_enter_fill fills fits unusedStill ready known changed
  obtain ⟨after, released, empty⟩ := perform_releaseAll_hosts filled.toHosts
    ⟨heap.toUInt32, (byteLength text).toUInt32, blockSize text, .none⟩
    ⟨(textEnd heap text).toUInt32, (byteLength id).toUInt32, blockSize id,
      .none⟩ both differs
  refine ⟨after, ?_, empty⟩
  simp only [Client.renderElement, perform_bind, Client.perform_beginCall,
    Recorded.beginCall_mk, written, perform_tryCatch, writtenTarget,
    Client.perform_callEntry, Recorded.run_enter, entered,
    Client.perform_attempt, released, Client.perform_ofResult]
  rfl

end Stub

end KeymapViewer
