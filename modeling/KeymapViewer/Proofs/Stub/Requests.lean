import KeymapViewer.Proofs.Stub.EchoRun

/-!
Requests of blocks, one after another, whatever their sizes. A stub hands out
proper blocks as long as the heap end is a word; a size that takes it further
is answered with a block that reaches past the memory.
-/

namespace KeymapViewer.Stub

open Wasm

/-- The contract that a stub keeps. -/
def Kind.abi : Kind → EntryAbi
  | .cString => .cString
  | .bindgen | .throwing => .bindgen

/-- What a block of a stub has to be like. -/
structure IsPlaced (block : Block) (memorySize : Nat) : Prop where
  aligned : 8 ∣ block.start
  afterData : heapStart.toNat ≤ block.start
  inside : block.finish ≤ memorySize

/-- A request of a block that has been answered. -/
structure Answered where
  size : UInt32
  outcome : Outcome
  /-- The size of the memory after the call. -/
  memorySize : Nat
  deriving DecidableEq, Repr

namespace Answered

/-- The block that the guest hands out. -/
def block? (answered : Answered) : Option Block :=
  match answered.outcome with
  | .done [.i32 pointer] => some ⟨pointer.toNat, answered.size.toNat⟩
  | _ => none

/-- The guest gives up, or hands out a block as it has to be. -/
def IsProper (answered : Answered) : Prop :=
  answered.outcome = .trap .unreachable ∨
    ∃ block, answered.block? = some block ∧
      IsPlaced block answered.memorySize

end Answered

/-- Calls the allocator for each size in turn. -/
def requests {η : Type} (module : Module) (calls : HostCalls η)
    (budget function : Nat) : Store → η → List UInt32 → List Answered
  | _, _, [] => []
  | store, host, size :: rest =>
    let (outcome, after, answered) :=
      invoke module calls budget function [.i32 size] store host
    ⟨size, outcome, after.memory.size⟩ ::
      requests module calls budget function after answered rest

/-- No block is bad, and none shares a byte with one before it. -/
structure AreSafe (answers : List Answered) : Prop where
  proper : ∀ answered ∈ answers, answered.IsProper
  apart : (answers.filterMap Answered.block?).Pairwise Block.Apart

/-- The heap end after a request. One that would end in the last page is
refused, and the heap stays as it is. -/
def nextHeap (heap : Nat) (size : UInt32) : Nat :=
  if heap + roundUp size.toNat ≤ heapLimit then heap + roundUp size.toNat
  else heap

/-- No request takes the heap end past the last word. -/
def StaysWord : Nat → List UInt32 → Prop
  | _, [] => True
  | heap, size :: rest =>
    heap + roundUp size.toNat < wordCount 32 ∧
      StaysWord (nextHeap heap size) rest

instance StaysWord.decidable (heap : Nat) :
    (sizes : List UInt32) → Decidable (StaysWord heap sizes)
  | [] => .isTrue trivial
  | size :: rest =>
    have := StaysWord.decidable (nextHeap heap size) rest
    inferInstanceAs (Decidable (_ ∧ _))

theorem le_nextHeap (heap : Nat) (size : UInt32) :
    heap ≤ nextHeap heap size := by
  unfold nextHeap
  split
  · exact Nat.le_add_right ..
  · exact le_rfl

section Run

variable {η : Type} {module : Module} (calls : HostCalls η)
  {store : Store} {heap function budget : Nat}

/-- How a request is answered while the heap end is a word. -/
theorem exists_invoke_alloc (has : HasHeap store heap)
    (defines : Defines module function (type 1 1) allocCode)
    (enough : 32 < budget) {size : UInt32}
    (isWord : heap + roundUp size.toNat < wordCount 32) (host : η) :
    ∃ outcome after,
      invoke module calls budget function [.i32 size] store host =
        (outcome, after, host) ∧
      HasHeap after (nextHeap heap size) ∧
      (outcome = .trap .unreachable ∧ nextHeap heap size = heap ∨
        outcome = .done [.i32 heap.toUInt32] ∧
          heap + size.toNat ≤ nextHeap heap size) := by
  by_cases fits : heap + roundUp size.toNat ≤ heapLimit
  · have next : nextHeap heap size = heap + roundUp size.toNat := if_pos fits
    refine ⟨_, _, invoke_alloc calls has defines enough fits host, ?_, .inr ⟨rfl, ?_⟩⟩
    · rw [next]
      exact has.moveHeap fits
    · rw [next]
      exact Nat.add_le_add_left (le_roundUp _) _
  · have next : nextHeap heap size = heap := if_neg fits
    refine ⟨_, _, invoke_alloc_of_beyond calls has defines enough
      (Nat.lt_of_not_le fits) isWord host, ?_, .inl ⟨rfl, next⟩⟩
    rwa [next]

theorem HasHeap.toNat_toUInt32 (has : HasHeap store heap) :
    heap.toUInt32.toNat = heap := by
  have limit := heapLimit_eq
  have word := wordCount_word
  have inside := has.inside
  have small := has.small
  exact Wasm.toNat_toUInt32 (by omega)

theorem HasHeap.block?_eq (has : HasHeap store heap) (size : UInt32)
    (memorySize : Nat) :
    Answered.block? ⟨size, .done [.i32 heap.toUInt32], memorySize⟩ =
      some ⟨heap, size.toNat⟩ :=
  congrArg (fun start => some (Block.mk start size.toNat)) has.toNat_toUInt32

/-- A block at the heap end is as it has to be. -/
theorem HasHeap.isPlaced (has : HasHeap store heap) {size memorySize : Nat}
    (inside : heap + size ≤ memorySize) :
    IsPlaced ⟨heap, size⟩ memorySize where
  aligned := Nat.dvd_of_mod_eq_zero has.aligned
  afterData := has.afterData
  inside := inside

/-- The blocks lie one after another from the heap end on. -/
theorem areSafe_requests (has : HasHeap store heap)
    (defines : Defines module function (type 1 1) allocCode)
    (enough : 32 < budget) (host : η) {sizes : List UInt32}
    (stays : StaysWord heap sizes) :
    AreSafe (requests module calls budget function store host sizes) ∧
      ∀ block ∈ (requests module calls budget function store host
          sizes).filterMap Answered.block?,
        heap ≤ block.start := by
  induction sizes generalizing store heap with
  | nil =>
      exact ⟨⟨by simp [requests], .nil⟩, by simp [requests]⟩
  | cons size rest inductionHypothesis =>
      obtain ⟨isWord, staysAfter⟩ := stays
      obtain ⟨outcome, after, answer, hasAfter, answered⟩ :=
        exists_invoke_alloc calls has defines enough isWord host
      obtain ⟨⟨proper, apart⟩, later⟩ :=
        inductionHypothesis hasAfter staysAfter
      rw [requests, answer]
      rcases answered with ⟨rfl, same⟩ | ⟨rfl, room⟩
      · refine ⟨⟨List.forall_mem_cons.mpr ⟨.inl rfl, proper⟩, apart⟩, ?_⟩
        intro block member
        exact (le_nextHeap heap size).trans (later block member)
      · have place := has.block?_eq size after.memory.size
        have placed : Answered.IsProper ⟨size, .done [.i32 heap.toUInt32],
            after.memory.size⟩ :=
          .inr ⟨_, place, has.isPlaced (room.trans hasAfter.inside)⟩
        simp only [List.filterMap_cons, place]
        refine ⟨⟨List.forall_mem_cons.mpr ⟨placed, proper⟩, ?_⟩, ?_⟩
        · rw [List.filterMap_cons, place]
          exact .cons (fun block member =>
            .inl (room.trans (later block member))) apart
        · intro block member
          rcases List.mem_cons.mp member with rfl | member
          · exact le_rfl
          · exact (le_nextHeap heap size).trans (later block member)

/-- A block for which the heap end wraps around reaches past the memory. -/
theorem not_isProper_of_wrap (has : HasHeap store heap) {size : UInt32}
    (wraps : wordCount 32 ≤ heap + roundUp size.toNat) {memorySize : Nat}
    (same : memorySize = store.memory.size) :
    ¬ Answered.IsProper ⟨size, .done [.i32 heap.toUInt32], memorySize⟩ := by
  have limit := heapLimit_eq
  have word := wordCount_word
  have small := has.small
  rintro (trapped | ⟨block, place, -, -, inside⟩)
  · cases trapped
  · rw [has.block?_eq] at place
    obtain rfl := Option.some.inj place
    simp only [Block.finish] at inside
    unfold roundUp at wraps
    omega

theorem staysWord_of_areSafe (has : HasHeap store heap)
    (defines : Defines module function (type 1 1) allocCode)
    (enough : 32 < budget) (host : η) {sizes : List UInt32}
    (safe : AreSafe (requests module calls budget function store host sizes)) :
    StaysWord heap sizes := by
  induction sizes generalizing store heap with
  | nil =>
      trivial
  | cons size rest inductionHypothesis =>
      obtain ⟨proper, apart⟩ := safe
      by_cases isWord : heap + roundUp size.toNat < wordCount 32
      · obtain ⟨outcome, after, answer, hasAfter, -⟩ :=
          exists_invoke_alloc calls has defines enough isWord host
        rw [requests, answer] at proper apart
        exact ⟨isWord, inductionHypothesis hasAfter
          ⟨(List.forall_mem_cons.mp proper).2,
            apart.sublist ((List.sublist_cons_self ..).filterMap _)⟩⟩
      · obtain ⟨after, same, answer⟩ := invoke_alloc_of_wrap calls has
          defines enough (Nat.le_of_not_lt isWord) host
        rw [requests, answer] at proper
        exact absurd (List.forall_mem_cons.mp proper).1
          (not_isProper_of_wrap has (Nat.le_of_not_lt isWord) same)

theorem areSafe_requests_iff_of_hasHeap (has : HasHeap store heap)
    (defines : Defines module function (type 1 1) allocCode)
    (enough : 32 < budget) (host : η) (sizes : List UInt32) :
    AreSafe (requests module calls budget function store host sizes) ↔
      StaysWord heap sizes :=
  ⟨staysWord_of_areSafe calls has defines enough host,
    fun stays => (areSafe_requests calls has defines enough host stays).1⟩

end Run

/-! ## New instances -/

/-- A host that answers no call. -/
def noCalls : HostCalls Unit := fun _ _ _ host => (none, host)

/-- The data of a stub lies below its heap. -/
theorem Kind.exists_hasHeap {η : Type} (kind : Kind) (calls : HostCalls η)
    (budget : Nat) (host : η) :
    ∃ function store,
      exportedFunction kind.module kind.abi.allocExport (wordType 1 1) =
        .ok function ∧
      kind.module.instantiate calls budget host = (.ok store, host) ∧
      HasHeap store heapStart.toNat ∧
      Defines kind.module function (type 1 1) allocCode := by
  have initial : HasHeap kind.module.initialStore heapStart.toNat := by
    cases kind <;> exact hasHeap_initialStore rfl rfl
  cases kind with
  | cString =>
      exact ⟨0, _, rfl, rfl, initial, rfl, by decide, rfl⟩
  | bindgen =>
      exact ⟨5, _, rfl, rfl, initial, rfl, by decide, rfl⟩
  | throwing =>
      exact ⟨5, _, rfl, rfl,
        initial.of_memory (Memory.size_write ..), rfl, by decide, rfl⟩

/-- What a new stub answers to requests of any sizes is safe exactly when they
leave the heap end a word. -/
theorem Kind.areSafe_requests_iff {η : Type} (kind : Kind)
    (calls : HostCalls η) (host : η) {budget : Nat} (enough : 32 < budget) :
    ∃ function store,
      exportedFunction kind.module kind.abi.allocExport (wordType 1 1) =
        .ok function ∧
      kind.module.instantiate calls budget host = (.ok store, host) ∧
      ∀ sizes,
        AreSafe (requests kind.module calls budget function store host
            sizes) ↔
          StaysWord heapStart.toNat sizes := by
  obtain ⟨function, store, found, instantiated, has, defines⟩ :=
    kind.exists_hasHeap calls budget host
  exact ⟨function, store, found, instantiated,
    areSafe_requests_iff_of_hasHeap calls has defines enough host⟩

theorem areSafe_requests_iff_cString :
    32 < 33 ∧
      ∃ function store,
        exportedFunction cStringModule "alloc" (wordType 1 1) =
          .ok function ∧
        cStringModule.instantiate noCalls 33 () = (.ok store, ()) ∧
        ∀ sizes,
          AreSafe (requests cStringModule noCalls 33 function store ()
              sizes) ↔
            StaysWord heapStart.toNat sizes :=
  ⟨by decide, Kind.cString.areSafe_requests_iff noCalls () (by decide)⟩

/-- The heap end wraps around to where the first block starts: the second
block reaches past the memory, and the third one lies in the first. -/
theorem not_areSafe_requests_back :
    exportedFunction cStringModule "alloc" (wordType 1 1) = .ok 0 ∧
      cStringModule.instantiate noCalls 33 () =
        (.ok cStringModule.initialStore, ()) ∧
      requests cStringModule noCalls 33 0 cStringModule.initialStore ()
          [2, 4294967288, 2] =
        [⟨2, .done [.i32 1024], 65536⟩, ⟨4294967288, .done [.i32 1032], 65536⟩,
          ⟨2, .done [.i32 1024], 65536⟩] ∧
      ¬ AreSafe (requests cStringModule noCalls 33 0
        cStringModule.initialStore () [2, 4294967288, 2]) := by
  have has : HasHeap cStringModule.initialStore heapStart.toNat :=
    hasHeap_initialStore rfl rfl
  refine ⟨rfl, rfl, by decide +kernel, ?_⟩
  intro safe
  have stays : StaysWord heapStart.toNat [2, 4294967288, 2] :=
    staysWord_of_areSafe noCalls has ⟨rfl, by decide, rfl⟩ (by decide) () safe
  exact absurd stays (by decide)

end KeymapViewer.Stub
