import KeymapViewer.Proofs.Memory.CText
import KeymapViewer.Proofs.Wasm.Run
import KeymapViewer.Proofs.Wasm.Word
import KeymapViewer.Stub

/-!
The allocator of the stubs. A block starts at the heap end, which moves up by
the size of the block rounded up to a multiple of eight, and the memory has as
many pages as the heap needs.
-/

namespace KeymapViewer.Stub

open Wasm

/-- The most that a heap may come to. The last page stays free, so that the
size of the memory is a word. -/
def heapLimit : Nat := wordCount 32 - pageSize

theorem heapLimit_eq : heapLimit = 4294901760 := by decide

/-- The least multiple of eight that is no less than a size. -/
def roundUp (size : Nat) : Nat := (size + 7) / 8 * 8

theorem le_roundUp (size : Nat) : size ≤ roundUp size := by
  unfold roundUp
  omega

/-- The heap end after a block, as the words of the code have it. -/
def wrappedEnd (heap size : Nat) : Nat :=
  (heap + roundUp size) % wordCount 32

theorem wrappedEnd_lt (heap size : Nat) : wrappedEnd heap size < wordCount 32 :=
  Nat.mod_lt _ (wordCount_pos 32)

theorem wrappedEnd_of_lt {heap size : Nat}
    (word : heap + roundUp size < wordCount 32) :
    wrappedEnd heap size = heap + roundUp size :=
  Nat.mod_eq_of_lt word

/-- The least number of whole pages, in bytes, that hold so many bytes. -/
def wholePages (size : Nat) : Nat := (size + 65535) / 65536 * 65536

/-- The store of a stub whose heap ends at a place. -/
structure HasHeap (store : Store) (heap : Nat) : Prop where
  globals : store.globals = [.i32 heap.toUInt32]
  aligned : heap % 8 = 0
  afterData : heapStart.toNat ≤ heap
  inside : heap ≤ store.memory.size
  whole : store.memory.size % 65536 = 0
  small : store.memory.size ≤ heapLimit
  pageLimit : store.pageLimit = maxPages

/-- The store after the heap end has moved. -/
def moveHeap (store : Store) (heap : Nat) : Store :=
  { store with
    memory := { store.memory with
      size := max store.memory.size (wholePages heap) }
    globals := [.i32 heap.toUInt32] }

theorem HasHeap.moveHeap {store : Store} {heap size : Nat}
    (has : HasHeap store heap) (fits : heap + roundUp size ≤ heapLimit) :
    HasHeap (moveHeap store (heap + roundUp size)) (heap + roundUp size) := by
  have aligned := has.aligned
  have afterData := has.afterData
  have whole := has.whole
  have small := has.small
  have limit := heapLimit_eq
  refine ⟨rfl, ?_, by omega, ?_, ?_, ?_, has.pageLimit⟩
  · unfold roundUp
    omega
  all_goals
    simp only [Stub.moveHeap, wholePages]
    omega

theorem HasHeap.of_memory {store : Store} {heap : Nat}
    (has : HasHeap store heap) {memory : Memory}
    (size : memory.size = store.memory.size) :
    HasHeap { store with memory } heap :=
  { has with
    inside := has.inside.trans_eq size.symm
    whole := (congrArg (· % 65536) size).trans has.whole
    small := size.trans_le has.small }

/-- The store after a block of a size has been reserved and bytes have been
written to it. -/
def placed (store : Store) (heap size : Nat) (bytes : Text.Bytes) : Store :=
  { moveHeap store (heap + roundUp size) with
    memory := (moveHeap store (heap + roundUp size)).memory.write heap bytes }

theorem HasHeap.placed {store : Store} {heap size : Nat}
    (has : HasHeap store heap) (fits : heap + roundUp size ≤ heapLimit)
    (bytes : Text.Bytes) :
    HasHeap (placed store heap size bytes) (heap + roundUp size) :=
  (has.moveHeap fits).of_memory (Memory.size_write ..)

theorem memory_placed (store : Store) (heap size : Nat)
    (bytes : Text.Bytes) :
    (placed store heap size bytes).memory =
      (moveHeap store (heap + roundUp size)).memory.write heap bytes :=
  rfl

/-! ## The code -/

section Code

variable {η : Type} {module : Module} {calls : HostCalls η}

/-- A call of the allocator, once the new heap end is known. -/
def allocFrame (size : UInt32) (heap after : Nat) (operands : List Value)
    (code : List Instr) (labels : List Label) : Frame :=
  { arity := 1
    locals := [.i32 size, .i32 heap.toUInt32, .i32 after.toUInt32]
    operands, code, labels }

/-- What is left to do when the memory reaches the new heap end. -/
def allocRest : List Instr := [.localGet 2, .globalSet 0, .localGet 1]

/-- What is done when it does not: the missing pages are asked for. -/
def growCode : List Instr :=
  [.localGet 2, .i32Const 65535, .binary .add, .i32Const 16, .binary .shrU,
    .memorySize 0, .binary .sub, .memoryGrow 0, .i32Const (-1), .binary .eq,
    .ifElse none [.unreachable] []]

/-- The block in which the memory grows. -/
def growLabel : Label := ⟨0, allocRest, allocRest, []⟩

/-- The code up to the comparison, carried out on words. -/
theorem alloc_reaches_compared (memory : Memory) (pageLimit heap : Nat)
    (size : UInt32) (host : η) (callers : List Frame) :
    Config.Reaches module calls 15
      ⟨⟨memory, pageLimit, [.i32 heap.toUInt32]⟩, host,
        .ofCall (type 1 1) allocCode [.i32 size], callers⟩
      ⟨⟨memory, pageLimit, [.i32 heap.toUInt32]⟩, host,
        { arity := 1
          locals := [.i32 size, .i32 heap.toUInt32,
            .i32 (heap.toUInt32 + (size + 7 &&& -8))]
          operands := [.i32 (BinaryOp.ofBool
            ((memory.size / 65536).toUInt32 <<< (16 % 32) <
              heap.toUInt32 + (size + 7 &&& -8)))]
          code := allocCode.body.drop 15
          labels := [] },
        callers⟩ :=
  ⟨15, Nat.le_refl 15, fun _ => rfl⟩

theorem toUInt32_wrappedEnd (heap : Nat) (size : UInt32) :
    (wrappedEnd heap size.toNat).toUInt32 =
      heap.toUInt32 + (size + 7 &&& -8) := by
  have word := wordCount_word
  have sum : (size + 7).toNat = (size.toNat + 7) % 4294967296 := rfl
  have small : size.toNat < 4294967296 := size.toNat_lt
  simp only [← UInt32.toNat_inj, UInt32.toNat_add, and_neg_eight, sum,
    toNat_toUInt32_eq_mod, wrappedEnd, roundUp, word]
  omega

/-- The new heap end is compared with the size of the memory. -/
theorem alloc_reaches_if {store : Store} {heap : Nat}
    (has : HasHeap store heap) (size : UInt32) (host : η)
    (callers : List Frame) :
    Config.Reaches module calls 15
      ⟨store, host, .ofCall (type 1 1) allocCode [.i32 size], callers⟩
      ⟨store, host,
        allocFrame size heap (wrappedEnd heap size.toNat)
          [.i32 (BinaryOp.ofBool
            (store.memory.size < wrappedEnd heap size.toNat))]
          (allocCode.body.drop 15) [],
        callers⟩ := by
  obtain ⟨memory, pageLimit, globals⟩ := store
  obtain ⟨rfl, -, -, -, whole, small, -⟩ := has
  have limit := heapLimit_eq
  have word := wordCount_word
  have memorySize :
      (memory.size / 65536).toUInt32 <<< (16 % 32) =
        memory.size.toUInt32 := by
    rw [toUInt32_shiftLeft, Nat.div_mul_cancel (Nat.dvd_of_mod_eq_zero whole)]
  have beyond : decide (memory.size.toUInt32 <
        (wrappedEnd heap size.toNat).toUInt32) =
      decide (memory.size < wrappedEnd heap size.toNat) := by
    simp only at small
    rw [decide_eq_decide, toUInt32_lt_iff (by omega) (wrappedEnd_lt ..)]
  unfold allocFrame
  rw [← beyond, ← memorySize, toUInt32_wrappedEnd]
  exact alloc_reaches_compared ..

section Growth

variable {memory : Memory} {pageLimit heap after : Nat} {size : UInt32}
  (host : η) (callers : List Frame)

/-- A heap end that the memory reaches is only noted. -/
theorem alloc_reaches_end_of_le (whole : memory.size % 65536 = 0)
    (enough : after ≤ memory.size) :
    Config.Reaches module calls 5
      ⟨⟨memory, pageLimit, [.i32 heap.toUInt32]⟩, host,
        allocFrame size heap after [.i32 0] (allocCode.body.drop 15) [],
        callers⟩
      ⟨moveHeap ⟨memory, pageLimit, [.i32 heap.toUInt32]⟩ after, host,
        allocFrame size heap after [.i32 heap.toUInt32] [] [],
        callers⟩ := by
  have same : max memory.size (wholePages after) = memory.size := by
    unfold wholePages
    omega
  unfold moveHeap
  rw [same]
  exact ⟨5, Nat.le_refl 5, fun _ => rfl⟩

theorem alloc_reaches_growCode :
    Config.Reaches module calls 3
      ⟨⟨memory, pageLimit, [.i32 heap.toUInt32]⟩, host,
        allocFrame size heap after [.i32 1] (allocCode.body.drop 15) [],
        callers⟩
      ⟨⟨memory, pageLimit, [.i32 heap.toUInt32]⟩, host,
        allocFrame size heap after [.i32 65535, .i32 after.toUInt32]
          (growCode.drop 2) [growLabel],
        callers⟩ :=
  ⟨3, Nat.le_refl 3, fun _ => rfl⟩

/-- The pages that the code asks for: those that the heap needs, without
those that there are. -/
def missingPages (after size : Nat) : UInt32 :=
  (after + 65535).toUInt32 >>> (16 % 32) - (size / 65536).toUInt32

theorem missingPages_eq {size : Nat} (fits : after ≤ heapLimit)
    (beyond : size < after) :
    missingPages after size =
      (wholePages after / 65536 - size / 65536).toUInt32 := by
  have limit := heapLimit_eq
  have word := wordCount_word
  have needed : wholePages after / 65536 = (after + 65535) / 65536 :=
    Nat.mul_div_cancel _ (by decide)
  rw [missingPages, toUInt32_shiftRight (by omega), needed,
    toUInt32_sub (by omega)]

/-- The pages of a heap that ends in the last page wrap around to none, so the
code asks for more pages than there can be. -/
theorem toNat_missingPages {size : Nat} (beyond : heapLimit < after)
    (isWord : after < wordCount 32) (whole : size % 65536 = 0)
    (some : 0 < size) (small : size ≤ heapLimit) :
    (missingPages after size).toNat = 4294967296 - size / 65536 := by
  have limit := heapLimit_eq
  have word := wordCount_word
  have wrapped : (after + 65535).toUInt32 =
      (after + 65535 - 4294967296).toUInt32 := by
    rw [← UInt32.toNat_inj, toNat_toUInt32_eq_mod, toNat_toUInt32_eq_mod]
    omega
  have none : (after + 65535 - 4294967296) / 65536 = 0 := by omega
  have pages : (size / 65536).toUInt32.toNat = size / 65536 :=
    toNat_toUInt32 (by omega)
  rw [missingPages, wrapped, toUInt32_shiftRight (by omega), none,
    UInt32.toNat_sub, pages, toNat_toUInt32_eq_mod]
  omega

theorem alloc_reaches_grow :
    Config.Reaches module calls 8
      ⟨⟨memory, pageLimit, [.i32 heap.toUInt32]⟩, host,
        allocFrame size heap after [.i32 1] (allocCode.body.drop 15) [],
        callers⟩
      ⟨⟨memory, pageLimit, [.i32 heap.toUInt32]⟩, host,
        allocFrame size heap after [.i32 (missingPages after memory.size)]
          (growCode.drop 7) [growLabel],
        callers⟩ := by
  have lastByte : BinaryOp.apply .add after.toUInt32 65535 =
      .ok (after + 65535).toUInt32 :=
    congrArg Except.ok (toUInt32_add after 65535).symm
  have lastPage : BinaryOp.apply .shrU (after + 65535).toUInt32 16 =
      .ok ((after + 65535).toUInt32 >>> (16 % 32)) :=
    rfl
  have missing : BinaryOp.apply .sub
        ((after + 65535).toUInt32 >>> (16 % 32))
        (memory.size / 65536).toUInt32 =
      .ok (missingPages after memory.size) :=
    rfl
  exact (((((alloc_reaches_growCode host callers).trans
    (.binary lastByte)).trans (.of_step rfl)).trans
      (.binary lastPage)).trans (.of_step rfl)).trans (.binary missing)

/-- Memory is granted up to the limit of the pages. -/
theorem grow_eq {globals : List Value} (whole : memory.size % 65536 = 0)
    (fits : after ≤ heapLimit) (beyond : memory.size < after) :
    Store.grow ⟨memory, maxPages, globals⟩ (missingPages after memory.size) =
      ((memory.size / 65536).toUInt32,
        ⟨{ memory with size := max memory.size (wholePages after) },
          maxPages, globals⟩) := by
  have limit := heapLimit_eq
  have word := wordCount_word
  have count : (wholePages after / 65536 -
      memory.size / 65536).toUInt32.toNat =
      wholePages after / 65536 - memory.size / 65536 := by
    refine toNat_toUInt32 ?_
    unfold wholePages
    omega
  have granted : memory.size / 65536 +
      (wholePages after / 65536 - memory.size / 65536) =
      wholePages after / 65536 := by
    unfold wholePages
    omega
  have allowed : wholePages after / 65536 ≤ 65536 := by
    unfold wholePages
    omega
  have newSize : wholePages after / 65536 * 65536 =
      max memory.size (wholePages after) := by
    unfold wholePages
    omega
  simp only [missingPages_eq fits beyond, Store.grow, Store.pages, pageSize,
    maxPages, count, granted, allowed, newSize, if_true]

/-- No memory is granted for a heap that ends in the last page. -/
theorem grow_eq_of_beyond {globals : List Value}
    (whole : memory.size % 65536 = 0) (some : 0 < memory.size)
    (small : memory.size ≤ heapLimit) (beyond : heapLimit < after)
    (isWord : after < wordCount 32) :
    Store.grow ⟨memory, maxPages, globals⟩ (missingPages after memory.size) =
      (-1, ⟨memory, maxPages, globals⟩) := by
  have limit := heapLimit_eq
  have refused : ¬ memory.size / 65536 +
      (4294967296 - memory.size / 65536) ≤ 65536 := by
    omega
  simp only [Store.grow, Store.pages, pageSize, maxPages,
    toNat_missingPages beyond isWord whole some small, refused, if_false]

/-- The number of pages before a growth is no failure. -/
theorem alloc_reaches_end_of_grow (pages : memory.size / 65536 < 65536) :
    Config.Reaches module calls 8
      ⟨⟨{ memory with size := max memory.size (wholePages after) }, pageLimit,
          [.i32 heap.toUInt32]⟩, host,
        allocFrame size heap after [.i32 (memory.size / 65536).toUInt32]
          (growCode.drop 8) [growLabel],
        callers⟩
      ⟨moveHeap ⟨memory, pageLimit, [.i32 heap.toUInt32]⟩ after, host,
        allocFrame size heap after [.i32 heap.toUInt32] [] [],
        callers⟩ := by
  have word := wordCount_word
  have noFailure : BinaryOp.ofBool
      ((memory.size / 65536).toUInt32 == (-1 : UInt32)) = 0 := by
    have differs : (memory.size / 65536).toUInt32 ≠ (-1 : UInt32) := by
      intro same
      have values := congrArg UInt32.toNat same
      rw [toNat_toUInt32 (by omega)] at values
      change memory.size / 65536 = 4294967295 at values
      omega
    rw [beq_eq_false_iff_ne.mpr differs]
    rfl
  have compared : Config.Reaches module calls 2
      ⟨⟨{ memory with size := max memory.size (wholePages after) }, pageLimit,
          [.i32 heap.toUInt32]⟩, host,
        allocFrame size heap after [.i32 (memory.size / 65536).toUInt32]
          (growCode.drop 8) [growLabel],
        callers⟩
      ⟨⟨{ memory with size := max memory.size (wholePages after) }, pageLimit,
          [.i32 heap.toUInt32]⟩, host,
        allocFrame size heap after [.i32 0] (growCode.drop 10) [growLabel],
        callers⟩ := by
    rw [← noFailure]
    exact ⟨2, Nat.le_refl 2, fun _ => rfl⟩
  exact compared.trans ⟨6, Nat.le_refl 6, fun _ => rfl⟩

/-- Without the pages the code gives up. -/
theorem alloc_reaches_unreachable_of_grow :
    Config.Reaches module calls 3
      ⟨⟨memory, pageLimit, [.i32 heap.toUInt32]⟩, host,
        allocFrame size heap after [.i32 (-1)] (growCode.drop 8) [growLabel],
        callers⟩
      ⟨⟨memory, pageLimit, [.i32 heap.toUInt32]⟩, host,
        allocFrame size heap after [] [.unreachable]
          [⟨0, [], [], []⟩, growLabel],
        callers⟩ :=
  ⟨3, Nat.le_refl 3, fun _ => rfl⟩

end Growth

/-- The new heap end is noted when it leaves the last page free. What the code
returns is the place where the heap has ended. -/
theorem alloc_reaches_end_of_wrappedEnd {store : Store} {heap : Nat}
    (has : HasHeap store heap) {size : UInt32}
    (fits : wrappedEnd heap size.toNat ≤ heapLimit) (host : η)
    (callers : List Frame) :
    Config.Reaches module calls 32
      ⟨store, host, .ofCall (type 1 1) allocCode [.i32 size], callers⟩
      ⟨moveHeap store (wrappedEnd heap size.toNat), host,
        allocFrame size heap (wrappedEnd heap size.toNat)
          [.i32 heap.toUInt32] [] [],
        callers⟩ := by
  have toIf : Config.Reaches module calls 15 _ _ :=
    alloc_reaches_if has size host callers
  obtain ⟨memory, pageLimit, globals⟩ := store
  obtain ⟨rfl, -, -, -, whole, small, rfl⟩ := has
  simp only at whole small
  generalize wrappedEnd heap size.toNat = after at fits toIf ⊢
  -- The size of the memory decides which way the code takes; the heap end is
  -- noted on both.
  by_cases beyond : memory.size < after
  · have pages : memory.size / 65536 < 65536 := by
      have limit := heapLimit_eq
      omega
    rw [decide_eq_true beyond] at toIf
    exact ((toIf.trans (alloc_reaches_grow host callers)).trans
      (.memoryGrow (grow_eq whole fits beyond))).trans
        (alloc_reaches_end_of_grow host callers pages)
  · rw [decide_eq_false beyond] at toIf
    exact (toIf.trans (alloc_reaches_end_of_le host callers whole
      (Nat.le_of_not_lt beyond))).mono (by decide)

/-- A call of the allocator moves the heap end and returns the place where it
was. -/
theorem alloc_reaches_end {store : Store} {heap : Nat}
    (has : HasHeap store heap) {size : UInt32}
    (fits : heap + roundUp size.toNat ≤ heapLimit) (host : η)
    (callers : List Frame) :
    Config.Reaches module calls 32
      ⟨store, host, .ofCall (type 1 1) allocCode [.i32 size], callers⟩
      ⟨moveHeap store (heap + roundUp size.toNat), host,
        allocFrame size heap (heap + roundUp size.toNat)
          [.i32 heap.toUInt32] [] [],
        callers⟩ := by
  have noWrap : wrappedEnd heap size.toNat = heap + roundUp size.toNat :=
    wrappedEnd_of_lt (Nat.lt_of_le_of_lt fits (by decide))
  have moved : Config.Reaches module calls 32 _ _ :=
    alloc_reaches_end_of_wrappedEnd has (noWrap.symm ▸ fits) host callers
  rwa [noWrap] at moved

/-- The code gives up on a heap that would end in the last page. -/
theorem alloc_reaches_unreachable {store : Store} {heap : Nat}
    (has : HasHeap store heap) {size : UInt32}
    (beyond : heapLimit < wrappedEnd heap size.toNat) (host : η)
    (callers : List Frame) :
    Config.Reaches module calls 32
      ⟨store, host, .ofCall (type 1 1) allocCode [.i32 size], callers⟩
      ⟨store, host,
        allocFrame size heap (wrappedEnd heap size.toNat) [] [.unreachable]
          [⟨0, [], [], []⟩, growLabel],
        callers⟩ := by
  have toIf : Config.Reaches module calls 15 _ _ :=
    alloc_reaches_if has size host callers
  have isWord := wrappedEnd_lt heap size.toNat
  obtain ⟨memory, pageLimit, globals⟩ := store
  obtain ⟨rfl, -, afterData, inside, whole, small, rfl⟩ := has
  simp only at inside whole small
  generalize wrappedEnd heap size.toNat = after at beyond isWord toIf ⊢
  have some : 0 < memory.size :=
    Nat.lt_of_lt_of_le (by decide) (Nat.le_trans afterData inside)
  rw [decide_eq_true (Nat.lt_of_le_of_lt small beyond)] at toIf
  exact (((toIf.trans (alloc_reaches_grow host callers)).trans
    (.memoryGrow (grow_eq_of_beyond whole some small beyond isWord))).trans
      (alloc_reaches_unreachable_of_grow host callers)).mono (by decide)

/-! ## Calls from outside -/

section Invoke

variable (calls) {store : Store} {heap function budget : Nat} {size : UInt32}

/-- A block at the end of the heap. -/
theorem invoke_alloc (has : HasHeap store heap)
    (defines : Defines module function (type 1 1) allocCode)
    (enough : 32 < budget) (fits : heap + roundUp size.toNat ≤ heapLimit)
    (host : η) :
    invoke module calls budget function [.i32 size] store host =
      (.done [.i32 heap.toUInt32],
        moveHeap store (heap + roundUp size.toNat), host) :=
  (invoke_eq_done [.i32 size] defines (alloc_reaches_end has fits host [])
    enough).trans rfl

theorem invoke_alloc_of_beyond (has : HasHeap store heap)
    (defines : Defines module function (type 1 1) allocCode)
    (enough : 32 < budget)
    (beyond : heapLimit < heap + roundUp size.toNat)
    (isWord : heap + roundUp size.toNat < wordCount 32) (host : η) :
    invoke module calls budget function [.i32 size] store host =
      (.trap .unreachable, store, host) :=
  invoke_eq_of_stop [.i32 size] defines rfl
    (alloc_reaches_unreachable has
      ((wrappedEnd_of_lt isWord).symm ▸ beyond) host []) enough

/-- A size that takes the heap end past the last word brings it back to where
it was or before, and the memory stays as large as it is. -/
theorem invoke_alloc_of_wrap (has : HasHeap store heap)
    (defines : Defines module function (type 1 1) allocCode)
    (enough : 32 < budget)
    (wraps : wordCount 32 ≤ heap + roundUp size.toNat) (host : η) :
    ∃ after : Store, after.memory.size = store.memory.size ∧
      invoke module calls budget function [.i32 size] store host =
        (.done [.i32 heap.toUInt32], after, host) := by
  have limit := heapLimit_eq
  have word := wordCount_word
  have inside := has.inside
  have whole := has.whole
  have small := has.small
  have low : wrappedEnd heap size.toNat ≤ heap := by
    have isWord : size.toNat < 4294967296 := size.toNat_lt
    rw [wrappedEnd, word]
    rw [word] at wraps
    unfold roundUp at wraps ⊢
    omega
  refine ⟨moveHeap store (wrappedEnd heap size.toNat), ?_,
    (invoke_eq_done [.i32 size] defines
      (alloc_reaches_end_of_wrappedEnd has (by omega) host [])
      enough).trans rfl⟩
  simp only [moveHeap, wholePages]
  omega

end Invoke

end Code

end KeymapViewer.Stub
