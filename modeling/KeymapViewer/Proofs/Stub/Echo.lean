import KeymapViewer.Proofs.Stub.Alloc

/-!
The render function that copies its input. Its first loop counts the bytes
before the zero byte, its second one copies them and the zero byte to a fresh
block.
-/

namespace KeymapViewer.Stub

open Text Wasm

/-! ## Bytes as words -/

theorem load?_byte {store : Store} {address : UInt32}
    (inside : address.toNat < store.memory.size) :
    store.load? .byte 0 address =
      some (store.memory.get address.toNat).toUInt32 := by
  have place : store.place? address 0 1 = some address.toNat :=
    if_pos (by omega)
  rw [Store.load?, Width.bytes, place]
  simp [Memory.read, Store.wordOf]

theorem store?_byte {store : Store} {address : UInt32} (byte : UInt8)
    (inside : address.toNat < store.memory.size) :
    store.store? .byte 0 address byte.toUInt32 =
      some { store with
        memory := store.memory.write address.toNat [byte] } := by
  have place : store.place? address 0 1 = some address.toNat :=
    if_pos (by omega)
  rw [Store.store?, Width.bytes, place]
  simp [Store.bytesOf]

/-! ## The frame -/

section Code

variable {η : Type} {module : Module} {calls : HostCalls η}

/-- A call of the function, after `length` bytes have been counted, with the
fresh block and the place of the byte to copy next. -/
def echoFrame (pointer : UInt32) (length block index : Nat)
    (operands : List Value) (code : List Instr) (labels : List Label) :
    Frame :=
  { arity := 1
    locals := [.i32 pointer, .i32 length.toUInt32, .i32 block.toUInt32,
      .i32 index.toUInt32]
    operands, code, labels }

/-- The code from an instruction on. -/
def echoRest (alloc done : Nat) : List Instr := (echoCode alloc).body.drop done

/-- The body of the first loop. -/
def countCode : List Instr :=
  [.localGet 0, .localGet 1, .binary .add, .load .byte firstByte, .i32Eqz,
    .brIf 1, .localGet 1, .i32Const 1, .binary .add, .localSet 1, .br 0]

/-- The body of the second loop. -/
def copyCode : List Instr :=
  [.localGet 3, .localGet 1, .binary .gtU, .brIf 1, .localGet 2, .localGet 3,
    .binary .add, .localGet 0, .localGet 3, .binary .add,
    .load .byte firstByte, .store .byte firstByte, .localGet 3, .i32Const 1,
    .binary .add, .localSet 3, .br 0]

/-- The block around a loop. -/
def aroundLoop (alloc done : Nat) : List Label :=
  [⟨0, echoRest alloc done, echoRest alloc done, []⟩]

/-- The labels inside a loop. -/
def insideLoop (alloc done : Nat) (body : List Instr) : List Label :=
  ⟨0, [.loop none body], [], []⟩ :: aroundLoop alloc done

variable {store : Store} {alloc block index : Nat} {pointer : UInt32}
  {bytes : Bytes} (host : η) (callers : List Frame)

/-! ## Counting -/

/-- The byte at an index decides whether the loop goes on. -/
theorem count_reaches_test {answer : UInt32} {length : Nat}
    (inside : pointer.toNat + length < store.memory.size)
    (small : store.memory.size ≤ heapLimit)
    (tested : BinaryOp.ofBool
      ((store.memory.get (pointer.toNat + length)).toUInt32 == 0) = answer) :
    Config.Reaches module calls 6
      ⟨store, host,
        echoFrame pointer length 0 0 [] [.loop none countCode]
          (aroundLoop alloc 1), callers⟩
      ⟨store, host,
        echoFrame pointer length 0 0 [.i32 answer] (countCode.drop 5)
          (insideLoop alloc 1 countCode), callers⟩ := by
  have limit := heapLimit_eq
  have word := wordCount_word
  have place : pointer + length.toUInt32 =
      (pointer.toNat + length).toUInt32 := by
    rw [toUInt32_add, toUInt32_toNat]
  have value : (pointer + length.toUInt32).toNat =
      pointer.toNat + length := by
    rw [place, toNat_toUInt32 (by omega)]
  have loaded : store.load? .byte 0 (pointer + length.toUInt32) =
      some (store.memory.get (pointer.toNat + length)).toUInt32 := by
    rw [load?_byte (by omega), value]
  have operands : Config.Reaches module calls 3
      ⟨store, host,
        echoFrame pointer length 0 0 [] [.loop none countCode]
          (aroundLoop alloc 1), callers⟩
      ⟨store, host,
        echoFrame pointer length 0 0 [.i32 length.toUInt32, .i32 pointer]
          (countCode.drop 2) (insideLoop alloc 1 countCode), callers⟩ :=
    ⟨3, Nat.le_refl 3, fun _ => rfl⟩
  exact ((operands.trans (.binary rfl)).trans (.load loaded)).trans
    (.i32Eqz tested)

theorem count_reaches_next {length : Nat}
    (inside : pointer.toNat + length < store.memory.size)
    (small : store.memory.size ≤ heapLimit)
    (nonzero : store.memory.get (pointer.toNat + length) ≠ 0) :
    Config.Reaches module calls 12
      ⟨store, host,
        echoFrame pointer length 0 0 [] [.loop none countCode]
          (aroundLoop alloc 1), callers⟩
      ⟨store, host,
        echoFrame pointer (length + 1) 0 0 [] [.loop none countCode]
          (aroundLoop alloc 1), callers⟩ := by
  have tested : BinaryOp.ofBool
      ((store.memory.get (pointer.toNat + length)).toUInt32 == 0) = 0 := by
    have differs :
        (store.memory.get (pointer.toNat + length)).toUInt32 ≠ 0 := by
      intro zero
      exact nonzero (UInt8.toUInt32_inj.mp zero)
    rw [beq_eq_false_iff_ne.mpr differs]
    rfl
  have counted : BinaryOp.apply .add length.toUInt32 1 =
      .ok (length + 1).toUInt32 :=
    congrArg Except.ok (toUInt32_add length 1).symm
  have goesOn : Config.Reaches module calls 3
      ⟨store, host,
        echoFrame pointer length 0 0 [.i32 0] (countCode.drop 5)
          (insideLoop alloc 1 countCode), callers⟩
      ⟨store, host,
        echoFrame pointer length 0 0 [.i32 1, .i32 length.toUInt32]
          (countCode.drop 8) (insideLoop alloc 1 countCode), callers⟩ :=
    ⟨3, Nat.le_refl 3, fun _ => rfl⟩
  have again : Config.Reaches module calls 2
      ⟨store, host,
        echoFrame pointer length 0 0 [.i32 (length + 1).toUInt32]
          (countCode.drop 9) (insideLoop alloc 1 countCode), callers⟩
      ⟨store, host,
        echoFrame pointer (length + 1) 0 0 [] [.loop none countCode]
          (aroundLoop alloc 1), callers⟩ :=
    ⟨2, Nat.le_refl 2, fun _ => rfl⟩
  exact (((count_reaches_test host callers inside small tested).trans
    goesOn).trans (.binary counted)).trans again

/-- The first loop counts all bytes before the zero byte. -/
theorem count_reaches_end
    (holds : store.memory.HoldsCText pointer.toNat bytes)
    (small : store.memory.size ≤ heapLimit) :
    Config.Reaches module calls (12 * bytes.length + 8)
      ⟨store, host, .ofCall (type 1 1) (echoCode alloc) [.i32 pointer],
        callers⟩
      ⟨store, host,
        echoFrame pointer bytes.length 0 0 [] (echoRest alloc 1) [],
        callers⟩ := by
  have inside := holds.inside
  -- The induction is on the bytes counted so far, none of which is zero.
  have counted (length : Nat) (le : length ≤ bytes.length) :
      Config.Reaches module calls (12 * length)
        ⟨store, host,
          echoFrame pointer 0 0 0 [] [.loop none countCode]
            (aroundLoop alloc 1), callers⟩
        ⟨store, host,
          echoFrame pointer length 0 0 [] [.loop none countCode]
            (aroundLoop alloc 1), callers⟩ := by
    induction length with
    | zero =>
        exact .refl
    | succ length inductionHypothesis =>
        exact (inductionHypothesis (by omega)).trans
          (count_reaches_next host callers (by omega) small
            (holds.get_ne_zero le))
  have tested : BinaryOp.ofBool
      ((store.memory.get (pointer.toNat + bytes.length)).toUInt32 == 0) =
      1 := by
    rw [holds.ended]
    rfl
  have entered : Config.Reaches module calls 1
      ⟨store, host, .ofCall (type 1 1) (echoCode alloc) [.i32 pointer],
        callers⟩
      ⟨store, host,
        echoFrame pointer 0 0 0 [] [.loop none countCode]
          (aroundLoop alloc 1), callers⟩ :=
    .of_step rfl
  have left : Config.Reaches module calls 1
      ⟨store, host,
        echoFrame pointer bytes.length 0 0 [.i32 1] (countCode.drop 5)
          (insideLoop alloc 1 countCode), callers⟩
      ⟨store, host,
        echoFrame pointer bytes.length 0 0 [] (echoRest alloc 1) [],
        callers⟩ :=
    .of_step rfl
  exact (((entered.trans (counted bytes.length le_rfl)).trans
    (count_reaches_test host callers inside small tested)).trans left).mono
      (by omega)

/-! ## The block -/

/-- The fresh block has room for the bytes and the zero byte. -/
theorem block_reaches {heap length : Nat} (has : HasHeap store heap)
    (fits : heap + roundUp (length + 1) ≤ heapLimit)
    (defines : Defines module alloc (type 1 1) allocCode)
    (shallow : callers.length < maxCallDepth) :
    Config.Reaches module calls 39
      ⟨store, host, echoFrame pointer length 0 0 [] (echoRest alloc 1) [],
        callers⟩
      ⟨moveHeap store (heap + roundUp (length + 1)), host,
        echoFrame pointer length heap 0 [] [.loop none copyCode]
          (aroundLoop alloc 7), callers⟩ := by
  have limit := heapLimit_eq
  have word := wordCount_word
  have room := le_roundUp (length + 1)
  have size : (length + 1).toUInt32.toNat = length + 1 :=
    toNat_toUInt32 (by omega)
  have counted : BinaryOp.apply .add length.toUInt32 1 =
      .ok (length + 1).toUInt32 :=
    congrArg Except.ok (toUInt32_add length 1).symm
  have asked : Config.Reaches module calls 2
      ⟨store, host, echoFrame pointer length 0 0 [] (echoRest alloc 1) [],
        callers⟩
      ⟨store, host,
        echoFrame pointer length 0 0 [.i32 1, .i32 length.toUInt32]
          (echoRest alloc 3) [], callers⟩ :=
    ⟨2, Nat.le_refl 2, fun _ => rfl⟩
  have allocated : Config.Reaches module calls 32 _ _ :=
    alloc_reaches_end has (size.symm ▸ fits) host
      (echoFrame pointer length 0 0 [] (echoRest alloc 5) [] :: callers)
  rw [size] at allocated
  have noted : Config.Reaches module calls 2
      ⟨moveHeap store (heap + roundUp (length + 1)), host,
        echoFrame pointer length 0 0 [.i32 heap.toUInt32] (echoRest alloc 5)
          [], callers⟩
      ⟨moveHeap store (heap + roundUp (length + 1)), host,
        echoFrame pointer length heap 0 [] [.loop none copyCode]
          (aroundLoop alloc 7), callers⟩ :=
    ⟨2, Nat.le_refl 2, fun _ => rfl⟩
  exact ((((asked.trans (.binary counted)).trans
    (.call [.i32 (length + 1).toUInt32] defines rfl shallow)).trans
      allocated).trans .ret).trans noted

/-! ## Copying -/

/-- The store after so many bytes have been copied. -/
def copied (store : Store) (source target count : Nat) : Store :=
  { store with
    memory := store.memory.write target (store.memory.read source count) }

theorem copied_succ (store : Store) (source target count : Nat) :
    copied store source target (count + 1) =
      { copied store source target count with
        memory := (copied store source target count).memory.write
          (target + count) [store.memory.get (source + count)] } := by
  unfold copied
  rw [Memory.read_add, Memory.write_append, Memory.length_read]
  rfl

section Copying

variable {length : Nat}

theorem copy_reaches_test {answer : UInt32}
    (tested : BinaryOp.ofBool (length.toUInt32 < index.toUInt32) = answer) :
    Config.Reaches module calls 4
      ⟨store, host,
        echoFrame pointer length block index [] [.loop none copyCode]
          (aroundLoop alloc 7), callers⟩
      ⟨store, host,
        echoFrame pointer length block index [.i32 answer] (copyCode.drop 3)
          (insideLoop alloc 7 copyCode), callers⟩ := by
  have operands : Config.Reaches module calls 3
      ⟨store, host,
        echoFrame pointer length block index [] [.loop none copyCode]
          (aroundLoop alloc 7), callers⟩
      ⟨store, host,
        echoFrame pointer length block index
          [.i32 length.toUInt32, .i32 index.toUInt32] (copyCode.drop 2)
          (insideLoop alloc 7 copyCode), callers⟩ :=
    ⟨3, Nat.le_refl 3, fun _ => rfl⟩
  exact operands.trans (.binary (congrArg Except.ok tested))

/-- The bytes to copy lie before the block, so that copying does not change
them. -/
theorem copy_reaches_next (index_le : index ≤ length)
    (before : pointer.toNat + length < block)
    (inside : block + length < store.memory.size)
    (small : store.memory.size ≤ heapLimit) :
    Config.Reaches module calls 18
      ⟨copied store pointer.toNat block index, host,
        echoFrame pointer length block index [] [.loop none copyCode]
          (aroundLoop alloc 7), callers⟩
      ⟨copied store pointer.toNat block (index + 1), host,
        echoFrame pointer length block (index + 1) [] [.loop none copyCode]
          (aroundLoop alloc 7), callers⟩ := by
  have limit := heapLimit_eq
  have word := wordCount_word
  have sameSize : (copied store pointer.toNat block index).memory.size =
      store.memory.size :=
    Memory.size_write ..
  have sameByte : (copied store pointer.toNat block index).memory.get
      (pointer.toNat + index) = store.memory.get (pointer.toNat + index) :=
    Memory.get_write_outside (Or.inl (by omega))
  have goesOn : BinaryOp.ofBool (length.toUInt32 < index.toUInt32) = 0 := by
    rw [decide_eq_false]
    · rfl
    · rw [toUInt32_lt_iff (by omega) (by omega)]
      omega
  have target : BinaryOp.apply .add block.toUInt32 index.toUInt32 =
      .ok (block + index).toUInt32 :=
    congrArg Except.ok (toUInt32_add block index).symm
  have source : BinaryOp.apply .add pointer index.toUInt32 =
      .ok (pointer.toNat + index).toUInt32 := by
    rw [toUInt32_add, toUInt32_toNat]
    rfl
  have targetValue : (block + index).toUInt32.toNat = block + index :=
    toNat_toUInt32 (by omega)
  have sourceValue : (pointer.toNat + index).toUInt32.toNat =
      pointer.toNat + index :=
    toNat_toUInt32 (by omega)
  have loaded : (copied store pointer.toNat block index).load? .byte 0
        (pointer.toNat + index).toUInt32 =
      some (store.memory.get (pointer.toNat + index)).toUInt32 := by
    rw [load?_byte (by omega), sourceValue, sameByte]
  have stored : (copied store pointer.toNat block index).store? .byte 0
        (block + index).toUInt32
        (store.memory.get (pointer.toNat + index)).toUInt32 =
      some (copied store pointer.toNat block (index + 1)) := by
    rw [store?_byte _ (by omega), targetValue, copied_succ]
  have counted : BinaryOp.apply .add index.toUInt32 1 =
      .ok (index + 1).toUInt32 :=
    congrArg Except.ok (toUInt32_add index 1).symm
  have toTarget : Config.Reaches module calls 3
      ⟨copied store pointer.toNat block index, host,
        echoFrame pointer length block index [.i32 0] (copyCode.drop 3)
          (insideLoop alloc 7 copyCode), callers⟩
      ⟨copied store pointer.toNat block index, host,
        echoFrame pointer length block index
          [.i32 index.toUInt32, .i32 block.toUInt32] (copyCode.drop 6)
          (insideLoop alloc 7 copyCode), callers⟩ :=
    ⟨3, Nat.le_refl 3, fun _ => rfl⟩
  have toSource : Config.Reaches module calls 2
      ⟨copied store pointer.toNat block index, host,
        echoFrame pointer length block index [.i32 (block + index).toUInt32]
          (copyCode.drop 7) (insideLoop alloc 7 copyCode), callers⟩
      ⟨copied store pointer.toNat block index, host,
        echoFrame pointer length block index
          [.i32 index.toUInt32, .i32 pointer, .i32 (block + index).toUInt32]
          (copyCode.drop 9) (insideLoop alloc 7 copyCode), callers⟩ :=
    ⟨2, Nat.le_refl 2, fun _ => rfl⟩
  have toCount : Config.Reaches module calls 2
      ⟨copied store pointer.toNat block (index + 1), host,
        echoFrame pointer length block index [] (copyCode.drop 12)
          (insideLoop alloc 7 copyCode), callers⟩
      ⟨copied store pointer.toNat block (index + 1), host,
        echoFrame pointer length block index [.i32 1, .i32 index.toUInt32]
          (copyCode.drop 14) (insideLoop alloc 7 copyCode), callers⟩ :=
    ⟨2, Nat.le_refl 2, fun _ => rfl⟩
  have again : Config.Reaches module calls 2
      ⟨copied store pointer.toNat block (index + 1), host,
        echoFrame pointer length block index [.i32 (index + 1).toUInt32]
          (copyCode.drop 15) (insideLoop alloc 7 copyCode), callers⟩
      ⟨copied store pointer.toNat block (index + 1), host,
        echoFrame pointer length block (index + 1) [] [.loop none copyCode]
          (aroundLoop alloc 7), callers⟩ :=
    ⟨2, Nat.le_refl 2, fun _ => rfl⟩
  exact (((((((((copy_reaches_test host callers goesOn).trans
    toTarget).trans (.binary target)).trans toSource).trans
      (.binary source)).trans (.load loaded)).trans (.store stored)).trans
        toCount).trans (.binary counted)).trans again

/-- The second loop copies the bytes and the zero byte. -/
theorem copy_reaches_end (before : pointer.toNat + length < block)
    (inside : block + length < store.memory.size)
    (small : store.memory.size ≤ heapLimit) :
    Config.Reaches module calls (18 * (length + 1) + 6)
      ⟨store, host,
        echoFrame pointer length block 0 [] [.loop none copyCode]
          (aroundLoop alloc 7), callers⟩
      ⟨copied store pointer.toNat block (length + 1), host,
        echoFrame pointer length block (length + 1) [.i32 block.toUInt32] []
          [], callers⟩ := by
  have limit := heapLimit_eq
  have word := wordCount_word
  -- The induction is on the bytes copied so far. The block fills up behind
  -- the bytes that are still to be read.
  have copies (index : Nat) (le : index ≤ length + 1) :
      Config.Reaches module calls (18 * index)
        ⟨store, host,
          echoFrame pointer length block 0 [] [.loop none copyCode]
            (aroundLoop alloc 7), callers⟩
        ⟨copied store pointer.toNat block index, host,
          echoFrame pointer length block index [] [.loop none copyCode]
            (aroundLoop alloc 7), callers⟩ := by
    induction index with
    | zero =>
        exact .refl
    | succ index inductionHypothesis =>
        exact (inductionHypothesis (by omega)).trans
          (copy_reaches_next host callers (by omega) before inside small)
  have ends : BinaryOp.ofBool
      (length.toUInt32 < (length + 1).toUInt32) = 1 := by
    rw [decide_eq_true]
    · rfl
    · rw [toUInt32_lt_iff (by omega) (by omega)]
      omega
  have left : Config.Reaches module calls 2
      ⟨copied store pointer.toNat block (length + 1), host,
        echoFrame pointer length block (length + 1) [.i32 1]
          (copyCode.drop 3) (insideLoop alloc 7 copyCode), callers⟩
      ⟨copied store pointer.toNat block (length + 1), host,
        echoFrame pointer length block (length + 1) [.i32 block.toUInt32] []
          [], callers⟩ :=
    ⟨2, Nat.le_refl 2, fun _ => rfl⟩
  exact ((copies (length + 1) le_rfl).trans
    (copy_reaches_test host callers ends)).trans left

end Copying

/-- The steps that a call may take for so many bytes. -/
def echoSteps (length : Nat) : Nat := 30 * length + 71

/-- A call copies the bytes before the zero byte, and the zero byte, to the
end of the heap, and returns their place. -/
theorem echo_reaches_end {heap : Nat} (has : HasHeap store heap)
    (holds : store.memory.HoldsCText pointer.toNat bytes)
    (before : pointer.toNat + bytes.length < heap)
    (fits : heap + roundUp (bytes.length + 1) ≤ heapLimit)
    (defines : Defines module alloc (type 1 1) allocCode)
    (shallow : callers.length < maxCallDepth) :
    Config.Reaches module calls (echoSteps bytes.length)
      ⟨store, host, .ofCall (type 1 1) (echoCode alloc) [.i32 pointer],
        callers⟩
      ⟨placed store heap (bytes.length + 1) (bytes ++ [0]), host,
        echoFrame pointer bytes.length heap (bytes.length + 1)
          [.i32 heap.toUInt32] [] [], callers⟩ := by
  have room := le_roundUp (bytes.length + 1)
  have grown := has.moveHeap fits
  have enough := grown.inside
  have source : copied
      (moveHeap store (heap + roundUp (bytes.length + 1))) pointer.toNat heap
        (bytes.length + 1) =
      placed store heap (bytes.length + 1) (bytes ++ [0]) := by
    have same : (moveHeap store
        (heap + roundUp (bytes.length + 1))).memory.read pointer.toNat
          (bytes.length + 1) = bytes ++ [0] :=
      holds.read
    rw [copied, same, placed]
  rw [← source]
  exact (((count_reaches_end host callers holds has.small).trans
    (block_reaches host callers has fits defines shallow)).trans
      (copy_reaches_end host callers before (by omega) grown.small)).mono
        (by unfold echoSteps; omega)

end Code

end KeymapViewer.Stub
