import KeymapViewer.Proofs.Client.Entry
import KeymapViewer.Proofs.Stub.EchoRender

/-!
A stub that returns the pointer of its input. Its render function does not
touch the memory, so the text is still there when the input has gone back.
-/

namespace KeymapViewer.Stub

open Text Wasm Exchange Client

def borrowCode : Code := ⟨[], [.localGet 0]⟩

def borrowModule : Module :=
  frame [type 1 1, type 2 0, type 1 0, type 1 1] []
    [("alloc", allocCode), ("dealloc", nothingCode),
      ("dealloc_str", nothingCode), ("svg", borrowCode)] []

theorem decode_borrowCode :
    Decode.code (encodedBody borrowCode) = .ok borrowCode := by
  with_unfolding_all rfl

theorem readsBack_borrow : ReadsBack borrowModule where
  types := by decide +kernel
  imports := by decide +kernel
  functions := by decide +kernel
  memories := by decide +kernel
  globals := by decide +kernel
  exports := by decide +kernel
  bodies := by decide +kernel
  code code member := by
    simp only [borrowModule, frame, List.map_cons, List.map_nil,
      List.mem_cons, List.not_mem_nil, or_false] at member
    rcases member with rfl | rfl | rfl | rfl
    · exact decode_allocCode
    · exact decode_nothingCode
    · exact decode_nothingCode
    · exact decode_borrowCode
  rest := ⟨rfl, rfl, rfl⟩

theorem starts_borrow :
    Starts borrowModule.encode borrowModule .cString [] ⟨0, 1, some 2⟩ 3 where
  sections := by decide +kernel
  reads := readsBack_borrow
  valid := by decide +kernel
  plain := by decide +kernel
  contract := by decide +kernel
  bindings := by decide +kernel
  memory := by decide +kernel
  exports contract abi entry := by
    obtain ⟨_, _, _, _, _⟩ := contract
    subst abi entry
    rfl

/-- An instance whose render function returns its input. -/
structure Borrows (running : Instance) (heap : Nat) : Prop
    extends Hosts running heap where
  deallocText : ∃ function, running.allocator.deallocText = some function ∧
    Defines running.module function (type 1 0) nothingCode
  entry : Defines running.module running.entry (type 1 1) borrowCode

theorem borrows_started {budget : Nat} (enough : 32 < budget) (page : Page) :
    Borrows (started borrowModule [] ⟨0, 1, some 2⟩ 3 budget page)
      heapStart.toNat where
  heap := hasHeap_initialStore rfl rfl
  alloc := ⟨rfl, Nat.zero_le _, rfl⟩
  dealloc := ⟨rfl, Nat.zero_le _, rfl⟩
  budget := enough
  deallocText := ⟨2, rfl, rfl, Nat.zero_le _, rfl⟩
  entry := ⟨rfl, Nat.zero_le _, rfl⟩

variable {running : Instance} {heap : Nat}

theorem Borrows.resume (borrows : Borrows running heap) {store : Store}
    {after : Nat} (has : HasHeap store after) (host : Host) :
    Borrows (running.resume store host) after :=
  { borrows with heap := has }

theorem run_enter_borrow (borrows : Borrows running heap)
    (pointer : UInt32) :
    (Renderer.enter [pointer] : StateM Instance Outcome).run running =
      (.done [.i32 pointer], running) := by
  have ends : Config.Reaches running.module (hostCalls running.bindings) 1
      ⟨running.store, running.host, .ofCall (type 1 1) borrowCode
        [.i32 pointer], []⟩
      ⟨running.store, running.host, ⟨1, [.i32 pointer], [.i32 pointer], [],
        []⟩, []⟩ :=
    .of_step rfl
  have enough : 1 < running.budget := by
    have := borrows.budget
    omega
  exact run_invoke_machine ((invoke_eq_done [.i32 pointer] borrows.entry ends
    enough).trans rfl)

/-! ## Renders -/

/-- The block of a text at the end of the heap. -/
def block (heap : Nat) (text : String) : GuestString :=
  ⟨heap.toUInt32, (byteLength text).toUInt32, blockSize text, .nul⟩

theorem perform_placeText_borrow (borrows : Borrows running heap)
    {text : String} (fits : textEnd heap text ≤ heapLimit) {ledger : Ledger}
    (clean : ledger.live = []) :
    (placeText text).perform ledger running =
      (.ok [block heap text], ledger.record heap.toUInt32 (blockSize text),
        running.resume (withText running.store heap text .nul)
          running.host.beginCall) := by
  have begun : Borrows (Renderer.beginCall running) heap :=
    borrows.resume borrows.heap running.host.beginCall
  have fresh : ledger.holds heap.toUInt32 = false := by
    simp [Ledger.holds, Ledger.capacity?, clean]
  have recorded :=
    perform_writeString_hosts begun.toHosts fits .nul fresh []
  obtain ⟨made, same⟩ := Recorded.Mirrors.writeString text .nul ledger
    (Renderer.beginCall running) []
  rw [same] at recorded
  obtain ⟨sameResult, sameRest⟩ := Prod.mk.inj recorded
  obtain ⟨sameLedger, sameGuest⟩ := Prod.mk.inj sameRest
  have written :
      (writeString text .nul).perform ledger (Renderer.beginCall running) =
        (.ok (block heap text), ledger.record heap.toUInt32 (blockSize text),
          running.resume (withText running.store heap text .nul)
            running.host.beginCall) :=
    Prod.ext sameResult (Prod.ext sameLedger
      (congrArg Recorded.guest sameGuest))
  simp only [placeText, perform_bind, perform_beginCall, written,
    perform_pure]

end KeymapViewer.Stub
