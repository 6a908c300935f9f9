import KeymapViewer.Proofs.Client.Settled
import KeymapViewer.Proofs.Stub.Echo
import KeymapViewer.Proofs.Stub.Start
import KeymapViewer.Proofs.Stub.Strings

/-!
Renders with the stub that copies its input. Each one moves the heap end by
the block of the input and that of the copy, and returns the text up to its
first character zero.
-/

namespace KeymapViewer.Stub

open Text Wasm Exchange

/-- An instance whose render function copies its input. -/
structure Echoes (running : Instance) (heap : Nat) : Prop
    extends Hosts running heap where
  deallocText : ∃ function, running.allocator.deallocText = some function ∧
    Defines running.module function (type 1 0) nothingCode
  entry : Defines running.module running.entry (type 1 1)
    (echoCode running.allocator.alloc)

variable {running : Instance} {heap : Nat}

theorem Echoes.resume (echoes : Echoes running heap) {store : Store}
    {after : Nat} (has : HasHeap store after) (host : Host) :
    Echoes (running.resume store host) after :=
  { echoes with heap := has }

/-- A text ends, for the guest, before its first character zero. -/
theorem holdsCText_withText {store : Store} (has : HasHeap store heap)
    {text : String} (fits : textEnd heap text ≤ heapLimit) :
    (withText store heap text .nul).memory.HoldsCText heap
      (Utf8.encode (upToNul text)) := by
  have room := lt_textEnd heap text
  have enough : textEnd heap text ≤ _ := (has.moveHeap fits).inside
  have shorter : (Utf8.encode (upToNul text)).length ≤ byteLength text :=
    byteLength_upToNul_le text
  obtain ⟨rest, same⟩ := Utf8.encode_append_zero text
  rw [withText, memory_placed, Terminator.encode, same]
  exact .write rest (lt_of_le_of_lt (by omega) (room.trans_le enough))
    (Utf8.zero_notMem_encode (notMem_upToNul text))

/-- The heap end after a render: behind the input comes a copy of the part
before its first character zero. -/
def echoEnd (heap : Nat) (text : String) : Nat :=
  textEnd (textEnd heap text) (upToNul text)

/-- The store once the input and the copy are in place. -/
def withEcho (store : Store) (heap : Nat) (text : String) : Store :=
  withText (withText store heap text .nul) (textEnd heap text) (upToNul text)
    .nul

theorem textEnd_le_echoEnd (heap : Nat) (text : String) :
    textEnd heap text ≤ echoEnd heap text :=
  Nat.le_add_right ..

theorem holdsCText_withEcho {store : Store} (has : HasHeap store heap)
    {text : String} (fits : echoEnd heap text ≤ heapLimit) :
    (withEcho store heap text).memory.HoldsCText (textEnd heap text)
      (Utf8.encode (upToNul text)) := by
  have input : HasHeap (withText store heap text .nul) (textEnd heap text) :=
    has.withText ((textEnd_le_echoEnd heap text).trans fits) _
  have same : upToNul (upToNul text) = upToNul text :=
    upToNul_of_notMem (notMem_upToNul text)
  have held := holdsCText_withText input fits
  rwa [same] at held

theorem HasHeap.withEcho {store : Store} (has : HasHeap store heap)
    {text : String} (fits : echoEnd heap text ≤ heapLimit) :
    HasHeap (withEcho store heap text) (echoEnd heap text) :=
  (has.withText ((textEnd_le_echoEnd heap text).trans fits) _).withText fits _

/-! ## Calls of a render -/

/-- The render function puts the copy behind the input. -/
theorem run_enter_echo (echoes : Echoes running heap) {text : String}
    (fits : echoEnd heap text ≤ heapLimit)
    (enough : echoSteps (byteLength (upToNul text)) < running.budget)
    (host : Host) :
    (Renderer.enter [heap.toUInt32] : StateM Instance Outcome).run
        (running.resume (withText running.store heap text .nul) host) =
      (.done [.i32 (textEnd heap text).toUInt32],
        running.resume (withEcho running.store heap text) host) := by
  have limit := heapLimit_eq
  have word := wordCount_word
  have room := lt_textEnd heap text
  have fitsInput := (textEnd_le_echoEnd heap text).trans fits
  have pointer : heap.toUInt32.toNat = heap := toNat_toUInt32 (by omega)
  have shorter : (Utf8.encode (upToNul text)).length ≤ byteLength text :=
    byteLength_upToNul_le text
  have filled := echoes.heap.withText fitsInput .nul
  have holds : (withText running.store heap text .nul).memory.HoldsCText
      heap.toUInt32.toNat (Utf8.encode (upToNul text)) := by
    rw [pointer]
    exact holdsCText_withText echoes.heap fitsInput
  have ends : Config.Reaches running.module (hostCalls running.bindings)
      (echoSteps (byteLength (upToNul text))) _ _ :=
    echo_reaches_end host [] filled holds (by omega) fits echoes.alloc
      (by decide)
  exact run_invoke_machine ((invoke_eq_done [.i32 heap.toUInt32] echoes.entry
    ends enough).trans rfl)

/-- The copy is read and given back. -/
theorem perform_takeCString_echo (echoes : Echoes running heap)
    {text : String} (fits : echoEnd heap text ≤ heapLimit) (host : Host)
    {ledger : Ledger} (clean : ledger.live = []) (calls : List GuestCall) :
    (takeCString (textEnd heap text).toUInt32).perform ledger
        (⟨running.resume (withEcho running.store heap text) host, calls⟩ :
          Recorded Instance) =
      (.ok (upToNul text), { ledger with consumed := ledger.consumed + 1 },
        ⟨running.resume (withEcho running.store heap text) host,
          calls ++ [.deallocText (textEnd heap text).toUInt32]⟩) := by
  have limit := heapLimit_eq
  have word := wordCount_word
  have behind := textEnd_le_echoEnd heap text
  have pointer : (textEnd heap text).toUInt32.toNat = textEnd heap text :=
    toNat_toUInt32 (by omega)
  have unheld : ledger.holds (textEnd heap text).toUInt32 = false := by
    simp [Ledger.holds, Ledger.capacity?, clean]
  have sameMemory : Guest.memory
      (⟨running.resume (withEcho running.store heap text) host, calls⟩ :
        Recorded Instance) = (withEcho running.store heap text).memory :=
    rfl
  have read : (withEcho running.store heap text).memory.readCText
      (textEnd heap text).toUInt32 = .ok (upToNul text) := by
    simp only [Memory.readCText, pointer,
      (holdsCText_withEcho echoes.heap fits).scan, Memory.decodeAt,
      Utf8.decode_encode]
    rfl
  have echoed : Echoes
      (running.resume (withEcho running.store heap text) host) _ :=
    echoes.resume (echoes.heap.withEcho fits) host
  obtain ⟨function, found, defines⟩ := echoed.deallocText
  simp only [perform_takeCString, unheld, Bool.false_eq_true, if_false,
    sameMemory, read, Recorded.run_deallocText,
    run_deallocText echoed.toHosts found defines]

/-! ## Renders -/

/-- The calls of a render: a block for the input, the render function, and
both the input and the copy given back. -/
def echoCalls (heap : Nat) (text : String) : List GuestCall :=
  [.alloc (blockSize text) (some heap.toUInt32), .enter [heap.toUInt32],
    .dealloc heap.toUInt32 (blockSize text),
    .deallocText (textEnd heap text).toUInt32]

/-- A render returns the text up to its first character zero. -/
theorem perform_renderText (echoes : Echoes running heap) {text : String}
    (fits : echoEnd heap text ≤ heapLimit)
    (enough : echoSteps (byteLength (upToNul text)) < running.budget)
    (entry : String) {ledger : Ledger} (clean : ledger.live = []) :
    ∃ after : Ledger,
      (Client.renderText entry text).perform ledger
          (⟨running, []⟩ : Recorded Instance) =
        (.ok (upToNul text), after,
          ⟨running.resume (withEcho running.store heap text)
              running.host.beginCall,
            echoCalls heap text⟩) ∧
      after.live = [] := by
  have limit := heapLimit_eq
  have word := wordCount_word
  have room := lt_textEnd heap text
  have fitsInput := (textEnd_le_echoEnd heap text).trans fits
  have nonzero : (textEnd heap text).toUInt32 ≠ 0 :=
    toUInt32_ne_zero (by omega) (by omega)
  have begun : Echoes (Renderer.beginCall running) heap :=
    echoes.resume echoes.heap running.host.beginCall
  have echoed : Echoes
      (running.resume (withEcho running.store heap text)
        running.host.beginCall) (echoEnd heap text) :=
    echoes.resume (echoes.heap.withEcho fits) _
  have fresh : ledger.holds heap.toUInt32 = false := by
    simp [Ledger.holds, Ledger.capacity?, clean]
  have written : (writeString text .nul).perform ledger
      (⟨Renderer.beginCall running, []⟩ : Recorded Instance) =
      (.ok ⟨heap.toUInt32, (byteLength text).toUInt32, blockSize text, .nul⟩,
        ledger.record heap.toUInt32 (blockSize text),
        ⟨running.resume (withText running.store heap text .nul)
            running.host.beginCall,
          [.alloc (blockSize text) (some heap.toUInt32)]⟩) :=
    perform_writeString_hosts begun.toHosts fitsInput .nul fresh []
  have entered := run_enter_echo echoes fits enough running.host.beginCall
  -- The input is back before the copy is taken over, so that the copy cannot
  -- be taken for a block of the host.
  have only : (ledger.record heap.toUInt32 (blockSize text)).live =
      [(heap.toUInt32, blockSize text)] := by
    simp only [Ledger.record, clean]
  obtain ⟨after, released, empty⟩ := perform_release_only echoed.toHosts
    ⟨heap.toUInt32, (byteLength text).toUInt32, blockSize text, .nul⟩ only
  have taken := perform_takeCString_echo echoes fits running.host.beginCall
    empty
  refine ⟨{ after with consumed := after.consumed + 1 }, ?_, empty⟩
  simp only [Client.renderText, perform_bind, Client.perform_beginCall,
    Recorded.beginCall_mk, written, Client.perform_callEntry,
    Recorded.run_enter, entered, Client.perform_attempt]
  rw [released]
  simp only [List.head?_cons, Option.map_some, Option.getD_some, Host.word,
    nonzero, if_false, perform_bind, Client.perform_attempt, taken,
    Client.perform_ofResult]
  rfl

end KeymapViewer.Stub
