import KeymapViewer.Proofs.Client.Request
import KeymapViewer.Proofs.Exchange.Custody
import KeymapViewer.Proofs.Memory.Span
import KeymapViewer.Proofs.Stub.Alloc

/-!
Strings in the memory of a stub. The host gets a block for each string at the
end of the heap, and what it frees is never used again.
-/

namespace KeymapViewer

open Text Wasm Exchange

namespace Stub

/-- An instance whose allocator is that of the stubs. -/
structure Hosts (running : Instance) (heap : Nat) : Prop where
  heap : HasHeap running.store heap
  alloc : Defines running.module running.allocator.alloc (type 1 1) allocCode
  dealloc : Defines running.module running.allocator.dealloc (type 2 0)
    nothingCode
  budget : 32 < running.budget

variable {running : Instance} {heap : Nat}

theorem Hosts.resume (hosts : Hosts running heap) {store : Store}
    {after : Nat} (has : HasHeap store after) (host : Host) :
    Hosts (running.resume store host) after :=
  { hosts with heap := has }

/-! ## Calls of the allocator -/

/-- What a call on the machine comes to. -/
theorem run_invoke_machine {function : Nat} {arguments : List UInt32}
    {outcome : Outcome} {store : Store} {host : Host}
    (called : Wasm.invoke running.module (hostCalls running.bindings)
      running.budget function (arguments.map .i32) running.store
      running.host = (outcome, store, host)) :
    (Instance.invoke function arguments).run running =
      (outcome, running.resume store host) :=
  Instance.run_invoke called

/-- A function without code returns at once. -/
theorem run_invoke_nothing {function parameters : Nat}
    {arguments : List UInt32}
    (defines : Defines running.module function (type parameters 0)
      nothingCode) (budget : 0 < running.budget) :
    (Instance.invoke function arguments).run running = (.done [], running) :=
  run_invoke_machine
    ((invoke_eq_done (arguments.map .i32) defines .refl budget).trans rfl)

theorem run_alloc (hosts : Hosts running heap) {size : UInt32}
    (fits : heap + roundUp size.toNat ≤ heapLimit) :
    (Guest.alloc size : Guest.Call Instance UInt32).run.run running =
      (.ok heap.toUInt32,
        running.resume
          (moveHeap running.store (heap + roundUp size.toNat))
          running.host) := by
  have called : (Instance.invoke running.allocator.alloc [size]).run running =
      (.done [.i32 heap.toUInt32],
        running.resume
          (moveHeap running.store (heap + roundUp size.toNat))
          running.host) :=
    run_invoke_machine (invoke_alloc _ hosts.heap hosts.alloc hosts.budget
      fits running.host)
  simp only [Guest.alloc, Instance.callAllocator, run_bind, Instance.run_get,
    Instance.run_liftM called]
  rfl

theorem run_callAbout {name : String} {function : Nat}
    (pointer : UInt32) {arguments : List UInt32} {results : List Value}
    {after : Instance}
    (called : (Instance.invoke function arguments).run running =
      (.done results, after)) :
    (Instance.callAbout name function pointer arguments).run.run running =
      (.ok (), after) := by
  simp only [Instance.callAbout, run_bind, Instance.run_liftM called]
  rfl

theorem run_dealloc (hosts : Hosts running heap) (pointer size : UInt32) :
    (Guest.dealloc pointer size : Guest.Call Instance Unit).run.run running =
      (.ok (), running) := by
  have budget : 0 < running.budget := Nat.zero_lt_of_lt hosts.budget
  simp only [Guest.dealloc, run_bind, Instance.run_get,
    run_callAbout pointer (run_invoke_nothing hosts.dealloc budget)]

theorem run_deallocText (hosts : Hosts running heap) {function : Nat}
    (found : running.allocator.deallocText = some function)
    (defines : Defines running.module function (type 1 0) nothingCode)
    (pointer : UInt32) :
    (Guest.deallocText pointer : Guest.Call Instance Unit).run.run running =
      (.ok (), running) := by
  have budget : 0 < running.budget := Nat.zero_lt_of_lt hosts.budget
  simp only [Guest.deallocText, run_bind, Instance.run_get, found,
    run_callAbout pointer (run_invoke_nothing defines budget)]

/-! ## Strings -/

/-- The heap end after a block for a text, which has room for a zero byte. -/
def textEnd (heap : Nat) (text : String) : Nat :=
  heap + roundUp (byteLength text + 1)

theorem lt_textEnd (heap : Nat) (text : String) :
    heap + byteLength text < textEnd heap text := by
  have room := le_roundUp (byteLength text + 1)
  unfold textEnd
  omega

/-- The store once a text is in its block. -/
def withText (store : Store) (heap : Nat) (text : String)
    (terminator : Terminator) : Store :=
  placed store heap (byteLength text + 1) (terminator.encode text)

theorem HasHeap.withText {store : Store} (has : HasHeap store heap)
    {text : String} (fits : textEnd heap text ≤ heapLimit)
    (terminator : Terminator) :
    HasHeap (withText store heap text terminator) (textEnd heap text) :=
  has.placed fits _

/-- The block of a text lies inside the memory. -/
theorem run_writeText (running : Instance) {store : Store} {after : Nat}
    (has : HasHeap store after) {text : String} (terminator : Terminator)
    (fits : heap + byteLength text + 1 ≤ after) :
    (Guest.writeText heap.toUInt32 text terminator :
        Guest.Call Instance UInt32).run.run
        (running.resume store running.host) =
      (.ok (terminator.encode text).length.toUInt32,
        running.resume { store with
          memory := store.memory.write heap (terminator.encode text) }
          running.host) := by
  have limit := heapLimit_eq
  have word := wordCount_word
  have inside := has.inside
  have small := has.small
  have short := terminator.length_encode_le text
  have pointer : heap.toUInt32.toNat = heap := toNat_toUInt32 (by omega)
  have length : (terminator.encode text).length.toUInt32.toNat =
      (terminator.encode text).length :=
    toNat_toUInt32 (by omega)
  have sameMemory : Guest.memory (running.resume store running.host) =
      store.memory :=
    rfl
  rw [Exchange.run_writeText, sameMemory]
  split
  · rename_i nothing
    have noBytes : terminator.encode text = [] := by
      rw [nothing] at length
      exact List.length_eq_zero_iff.mp length.symm
    rw [noBytes]
    rfl
  · have checked : store.memory.checkSpan heap.toUInt32
        (terminator.encode text).length.toUInt32 = .ok () := by
      rename_i something
      rw [Memory.checkSpan, if_neg something, pointer, length,
        if_neg (by omega), if_neg (by omega)]
    have stored : (Guest.store heap.toUInt32 (terminator.encode text) :
        Guest.Call Instance Unit).run.run
          (running.resume store running.host) =
        (.ok (), running.resume { store with
          memory := store.memory.write heap.toUInt32.toNat
            (terminator.encode text) } running.host) :=
      rfl
    simp only [checked, stored, pointer]

/-- A text is copied to a block at the end of the heap. -/
theorem perform_writeString_hosts (hosts : Hosts running heap) {text : String}
    (fits : textEnd heap text ≤ heapLimit) (terminator : Terminator)
    {ledger : Ledger} (fresh : ledger.holds heap.toUInt32 = false)
    (calls : List GuestCall) :
    (writeString text terminator).perform ledger
        (⟨running, calls⟩ : Recorded Instance) =
      (.ok ⟨heap.toUInt32, (byteLength text).toUInt32, blockSize text,
          terminator⟩,
        ledger.record heap.toUInt32 (blockSize text),
        ⟨running.resume (withText running.store heap text terminator)
            running.host,
          calls ++ [.alloc (blockSize text) (some heap.toUInt32)]⟩) := by
  have limit := heapLimit_eq
  have word := wordCount_word
  have room := lt_textEnd heap text
  have size : (blockSize text).toNat = byteLength text + 1 :=
    toNat_blockSize (by omega)
  have allocated : (Guest.alloc (blockSize text) :
      Guest.Call Instance UInt32).run.run running =
      (.ok heap.toUInt32,
        running.resume (moveHeap running.store (textEnd heap text))
          running.host) := by
    rw [run_alloc hosts (by rwa [size]), size]
    rfl
  have moved : HasHeap (moveHeap running.store (textEnd heap text))
      (textEnd heap text) :=
    hosts.heap.moveHeap fits
  have written := run_writeText running moved terminator room
  rw [perform_writeString, if_neg (by omega)]
  simp only [Recorded.run_alloc, allocated, Except.toOption, fresh,
    Bool.false_eq_true, if_false, Recorded.run_writeText, written]
  rfl

theorem perform_release_hosts (hosts : Hosts running heap)
    {string : GuestString} {ledger : Ledger}
    (known : ledger.capacity? string.pointer = some string.capacity)
    (calls : List GuestCall) :
    (release string).perform ledger (⟨running, calls⟩ : Recorded Instance) =
      (.ok (),
        { ledger.forget string.pointer with released := ledger.released + 1 },
        ⟨running, calls ++ [.dealloc string.pointer string.capacity]⟩) := by
  simp only [perform_release, known, ne_eq, not_true_eq_false, if_false,
    Recorded.run_dealloc, run_dealloc hosts]

/-- Giving back the only block there is leaves the ledger empty. -/
theorem perform_release_only (hosts : Hosts running heap)
    (string : GuestString) {ledger : Ledger}
    (only : ledger.live = [(string.pointer, string.capacity)]) :
    ∃ after : Ledger,
      (∀ calls, (release string).perform ledger
          (⟨running, calls⟩ : Recorded Instance) =
        (.ok (), after,
          ⟨running, calls ++ [.dealloc string.pointer string.capacity]⟩)) ∧
      after.live = [] := by
  have known : ledger.capacity? string.pointer = some string.capacity := by
    simp [Ledger.capacity?, only]
  refine ⟨_, perform_release_hosts hosts known, ?_⟩
  simp [Ledger.forget, only]

end Stub

end KeymapViewer
