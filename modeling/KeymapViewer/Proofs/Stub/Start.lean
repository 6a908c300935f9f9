import KeymapViewer.Client
import KeymapViewer.Proofs.Stub.Alloc

/-!
Stubs are read back from their binaries, keep the contract of a keymap module,
and start on every page.
-/

namespace KeymapViewer.Stub

open Text Wasm

theorem ok_of_toOption {α ε : Type} {result : Except ε α} {value : α}
    (found : result.toOption = some value) : result = .ok value := by
  cases result with
  | ok other =>
      exact congrArg Except.ok (Option.some.inj found)
  | error fault =>
      cases found

/-! ## Reading a binary back -/

/-- The bytes of a function body, without their number. -/
def encodedBody (code : Code) : Bytes :=
  Encode.vec Encode.localRun code.locals ++ Encode.instrs code.body ++ [0x0B]

/-- The sections of a module that has only what stubs have. -/
def encodedSections (module : Module) : List Section :=
  ⟨1, Encode.vec Encode.funcType module.types⟩ ::
    (if module.imports.isEmpty then []
      else [⟨2, Encode.vec Encode.importItem module.imports⟩]) ++
    [⟨3, Encode.vec Encode.unsigned module.functions⟩,
      ⟨5, Encode.vec Encode.memoryType module.memories⟩,
      ⟨6, Encode.vec Encode.globalItem module.globals⟩,
      ⟨7, Encode.vec Encode.exportItem module.exports⟩,
      ⟨10, Encode.vec Encode.code module.code⟩]

/-- The items of each section are read back as they were written. -/
structure ReadsBack (module : Module) : Prop where
  types : (Reader.whole (Reader.vec Decode.funcType)
    (Encode.vec Encode.funcType module.types)).toOption = some module.types
  imports : (Reader.whole (Reader.vec Decode.importItem)
    (Encode.vec Encode.importItem module.imports)).toOption =
      some module.imports
  functions : (Reader.whole (Reader.vec Reader.u32)
    (Encode.vec Encode.unsigned module.functions)).toOption =
      some module.functions
  memories : (Reader.whole (Reader.vec Decode.memoryType)
    (Encode.vec Encode.memoryType module.memories)).toOption =
      some module.memories
  globals : (Reader.whole (Reader.vec Decode.globalItem)
    (Encode.vec Encode.globalItem module.globals)).toOption =
      some module.globals
  exports : (Reader.whole (Reader.vec Decode.exportItem)
    (Encode.vec Encode.exportItem module.exports)).toOption =
      some module.exports
  bodies : (Reader.whole Section.bodies
    (Encode.vec Encode.code module.code)).toOption =
      some (module.code.map encodedBody)
  code : ∀ code ∈ module.code, Decode.code (encodedBody code) = .ok code
  rest : module.tables = [] ∧ module.start = none ∧ module.data = []

theorem mapM_code {codes : List Code}
    (back : ∀ code ∈ codes, Decode.code (encodedBody code) = .ok code) :
    (codes.map encodedBody).mapM Decode.code = .ok codes := by
  induction codes with
  | nil =>
      rfl
  | cons first others inductionHypothesis =>
      rw [List.map_cons, List.mapM_cons, back first (List.mem_cons_self ..),
        inductionHypothesis fun code member =>
          back code (List.mem_cons_of_mem _ member)]
      rfl

theorem ofSections_encodedSections {module : Module}
    (reads : ReadsBack module) :
    Module.ofSections (encodedSections module) = .ok module := by
  obtain ⟨types, imports, functions, memories, globals, exports, bodies, code,
    noTables, noStart, noData⟩ := reads
  unfold Module.ofSections encodedSections
  split
  · rename_i noImports
    simp only [List.nil_append, List.cons_append, List.foldlM_cons,
      List.foldlM_nil, Decode.addSection, bind, Except.bind, pure,
      Except.pure, ok_of_toOption types, ok_of_toOption functions,
      ok_of_toOption memories, ok_of_toOption globals,
      ok_of_toOption exports, ok_of_toOption bodies, mapM_code code]
    rw [List.isEmpty_iff] at noImports
    obtain ⟨_, _, _, _, _, _, _, _, _, _⟩ := module
    subst noTables noStart noData noImports
    rfl
  · simp only [List.nil_append, List.cons_append, List.foldlM_cons,
      List.foldlM_nil, Decode.addSection, bind, Except.bind, pure,
      Except.pure, ok_of_toOption types, ok_of_toOption imports,
      ok_of_toOption functions, ok_of_toOption memories,
      ok_of_toOption globals, ok_of_toOption exports, ok_of_toOption bodies,
      mapM_code code]
    obtain ⟨_, _, _, _, _, _, _, _, _, _⟩ := module
    subst noTables noStart noData
    rfl

theorem decode_allocCode :
    Decode.code (encodedBody allocCode) = .ok allocCode := by
  with_unfolding_all rfl

theorem decode_nothingCode :
    Decode.code (encodedBody nothingCode) = .ok nothingCode := by
  with_unfolding_all rfl

theorem decode_echoCode :
    Decode.code (encodedBody (echoCode 0)) = .ok (echoCode 0) := by
  with_unfolding_all rfl

theorem decode_setMarkupCode :
    Decode.code (encodedBody (setMarkupCode 0 1 2 3)) =
      .ok (setMarkupCode 0 1 2 3) := by
  with_unfolding_all rfl

theorem readsBack_cString : ReadsBack cStringModule where
  types := by decide +kernel
  imports := by decide +kernel
  functions := by decide +kernel
  memories := by decide +kernel
  globals := by decide +kernel
  exports := by decide +kernel
  bodies := by decide +kernel
  code code member := by
    simp only [cStringModule, frame, List.map_cons, List.map_nil,
      List.mem_cons, List.not_mem_nil, or_false] at member
    rcases member with rfl | rfl | rfl | rfl
    · exact decode_allocCode
    · exact decode_nothingCode
    · exact decode_nothingCode
    · exact decode_echoCode
  rest := ⟨rfl, rfl, rfl⟩

theorem readsBack_bindgen : ReadsBack bindgenModule where
  types := by decide +kernel
  imports := by decide +kernel
  functions := by decide +kernel
  memories := by decide +kernel
  globals := by decide +kernel
  exports := by decide +kernel
  bodies := by decide +kernel
  code code member := by
    simp only [bindgenModule, bindgenFrame, frame, List.map_cons,
      List.map_nil, List.mem_cons, List.not_mem_nil, or_false] at member
    rcases member with rfl | rfl | rfl
    · exact decode_allocCode
    · exact decode_nothingCode
    · exact decode_setMarkupCode
  rest := ⟨rfl, rfl, rfl⟩

/-! ## Starting a stub -/

/-- The instance of a module without data and start function. -/
def started (module : Module) (bindings : List HostFunction)
    (allocator : Allocator) (entry budget : Nat) (page : Page) : Instance :=
  { module, bindings, allocator, entry, budget
    store := module.initialStore
    host := { Host.new page with memoryReady := true } }

/-- A binary whose module is known and keeps its contract. -/
structure Starts (binary : Bytes) (module : Module) (abi : EntryAbi)
    (bindings : List HostFunction) (allocator : Allocator) (entry : Nat) :
    Prop where
  sections : (Binary.read binary).toOption =
    some ⟨.module, encodedSections module⟩
  reads : ReadsBack module
  valid : module.check.toOption = some ()
  /-- No part of the module is more than can be compiled. -/
  plain : (module.allMemories.any (·.wide) ||
      module.allTables.any (·.wide)) = false ∧
    ¬ 1 < module.allMemories.length ∧
    module.constants.all
      (isPlainConstant module.importedGlobals.length) = true
  contract : ((Contract.read module binary none).toOption.map
    fun contract => (contract.abi, contract.entry)) =
      some (abi, abi.defaultEntry)
  bindings : (bindImports module).toOption = some bindings
  memory : exportsMemory module = true
  exports : ∀ contract : Contract, contract.abi = abi →
    contract.entry = abi.defaultEntry →
    findExports module contract = .ok (allocator, entry)

theorem Starts.instantiateWith {binary : Bytes} {module : Module}
    {abi : EntryAbi} {bindings : List HostFunction} {allocator : Allocator}
    {entry : Nat}
    (starts : Starts binary module abi bindings allocator entry)
    (budget : Nat) (page : Page) :
    ∃ contract, contract.abi = abi ∧
      Client.instantiateWith budget binary none page =
        .ok ⟨contract, .empty,
          started module bindings allocator entry budget page⟩ := by
  obtain ⟨notWide, oneMemory, constants⟩ := starts.plain
  obtain ⟨-, noStart, noData⟩ := starts.reads.rest
  obtain ⟨contract, read, named⟩ := Option.map_eq_some_iff.mp starts.contract
  obtain ⟨sameAbi, sameEntry⟩ := Prod.mk.inj named
  have valid : Wasm.validate binary = .ok (.module module) := by
    simp only [Wasm.validate, ok_of_toOption starts.sections,
      ofSections_encodedSections starts.reads, ok_of_toOption starts.valid,
      bind, Except.bind, pure, Except.pure]
  have validated : Contract.validate binary = .ok () := by
    simp only [Contract.validate, Runtime.validate, valid, Except.map,
      Except.mapError]
  have compiled : Contract.compile binary = .ok module := by
    simp only [Contract.compile, Runtime.compile, Wasm.compile, valid,
      compileValidated, notWide, oneMemory, constants, bind, Except.bind,
      Except.mapError, Bool.false_eq_true, Bool.not_true, if_false]
  have instantiated (calls : HostCalls Host) (host : Host) :
      Runtime.instantiate module calls budget host =
        (.ok module.initialStore, host) := by
    simp only [Runtime.instantiate, Module.instantiate, noData, noStart,
      List.foldlM_nil, pure, Except.pure]
  have run : Instance.start module contract page budget =
      .ok (started module bindings allocator entry budget page) := by
    simp only [Instance.start, ok_of_toOption starts.bindings, instantiated,
      starts.memory, starts.exports contract sameAbi sameEntry, bind,
      Except.bind, pure, Except.pure, Bool.not_true, Bool.false_eq_true,
      if_false]
    rfl
  refine ⟨contract, sameAbi, ?_⟩
  simp only [Client.instantiateWith, validated, compiled,
    ok_of_toOption read, run, bind, Except.bind, pure, Except.pure,
    Except.mapError]

theorem starts_cString :
    Starts (Kind.binary .cString) cStringModule .cString []
      ⟨0, 1, some 2⟩ 3 where
  sections := by decide +kernel
  reads := readsBack_cString
  valid := by decide +kernel
  plain := by decide +kernel
  contract := by decide +kernel
  bindings := by decide +kernel
  memory := by decide +kernel
  exports contract abi entry := by
    obtain ⟨_, _, _, _, _⟩ := contract
    subst abi entry
    rfl

theorem starts_bindgen :
    Starts (Kind.binary .bindgen) bindgenModule .bindgen
      [.documentAccessor, .getElementById, .setInnerHtml, .objectDropRef,
        .throw]
      ⟨5, 6, none⟩ 7 where
  sections := by decide +kernel
  reads := readsBack_bindgen
  valid := by decide +kernel
  plain := by decide +kernel
  contract := by decide +kernel
  bindings := by decide +kernel
  memory := by decide +kernel
  exports contract abi entry := by
    obtain ⟨_, _, _, _, _⟩ := contract
    subst abi entry
    rfl

/-- The heap of a new instance of a stub starts after its data. -/
theorem hasHeap_initialStore {module : Module}
    (memories : module.allMemories = [⟨⟨1, none⟩, false⟩])
    (globals : module.globals =
      [⟨⟨.i32, true⟩, .const (.i32 heapStart)⟩]) :
    HasHeap module.initialStore heapStart.toNat := by
  have store : module.initialStore =
      ⟨.new 65536 0, maxPages, [.i32 heapStart]⟩ := by
    simp only [Module.initialStore, memories, globals]
    rfl
  rw [store]
  exact ⟨by decide, by decide, le_rfl, by decide, by decide, by decide, rfl⟩

end KeymapViewer.Stub
