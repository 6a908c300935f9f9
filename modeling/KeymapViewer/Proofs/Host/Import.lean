import KeymapViewer.Instance
import KeymapViewer.Proofs.Fault
import KeymapViewer.Proofs.Text.Cut

/-!
How imports are bound to callbacks. A name stands for a callback if it is the
stem of the callback's name, alone or with a hash at its end; an import is bound
if it is a function with such a name and with the type of the callback.
-/

namespace KeymapViewer

open Text Wasm

namespace HostFunction

/-- The hexadecimal digits, in either case. -/
def hexDigits : List Char := "0123456789abcdefABCDEF".toList

/-- Sixteen hexadecimal digits. -/
structure IsHash (hash : String) : Prop where
  length : hash.toList.length = 16
  digits : ∀ c ∈ hash.toList, c ∈ hexDigits

/-- The names that a callback is imported by. -/
inductive Names (function : HostFunction) : String → Prop
  | stem : Names function function.stem
  | hashed {hash : String} (isHash : IsHash hash) :
      Names function (function.stem ++ "_" ++ hash)

/-! ## Hashes -/

theorem isHexDigit_iff {c : Char} : isHexDigit c = true ↔ c ∈ hexDigits := by
  constructor
  · intro digit
    have below : c.toNat < 128 := by
      simp only [isHexDigit, Char.isDigit, Bool.or_eq_true,
        Bool.and_eq_true, decide_eq_true_eq, Char.le_def,
        UInt32.le_iff_toNat_le] at digit
      change c.val.toNat < 128
      rcases digit with (digit | digit) | digit
      all_goals exact Nat.lt_of_le_of_lt digit.2 (by decide)
    have listed : ∀ n < 128, isHexDigit (Char.ofNat n) = true →
        Char.ofNat n ∈ hexDigits := by
      decide +kernel
    have member := listed c.toNat below
    rw [Char.ofNat_toNat] at member
    exact member digit
  · have digits : hexDigits.all isHexDigit = true := by
      decide
    exact List.all_eq_true.mp digits c

theorem IsHash.underscore_notMem {hash : String} (isHash : IsHash hash) :
    '_' ∉ hash.toList := by
  intro member
  have digit := isHash.digits '_' member
  revert digit
  decide

theorem drop_hash {hash : List Char} (size : hash.length = hashLength)
    (c : Char) (base : List Char) :
    (hash ++ c :: base).drop (hashLength + 1) = base := by
  rw [List.append_cons]
  apply List.drop_left'
  rw [List.length_append, size]
  rfl

/-- A hash is taken off, whatever is in front of it. -/
theorem stripHash_hashed (base : String) {hash : String}
    (isHash : IsHash hash) : stripHash (base ++ "_" ++ hash) = base := by
  have reversed : (base ++ "_" ++ hash).toList.reverse =
      hash.toList.reverse ++ '_' :: base.toList.reverse := by
    simp
  have absent : '_' ∉ hash.toList.reverse :=
    fun member => isHash.underscore_notMem (List.mem_reverse.mp member)
  have digits : hash.toList.reverse.all isHexDigit = true := by
    rw [List.all_reverse, List.all_eq_true]
    intro c member
    exact isHexDigit_iff.mpr (isHash.digits c member)
  have size : hash.toList.reverse.length = hashLength := by
    rw [List.length_reverse, isHash.length]
    rfl
  unfold stripHash
  simp only [reversed, takeWhile_append_cons absent, drop_hash size, digits,
    size]
  rw [if_pos]
  · rw [List.reverse_reverse, String.ofList_toList]
  · simp [size]

-- A name is read from its end up to the last underscore. What is read is shorter
-- than the name just when there is an underscore at all.
/-- What is taken off is a hash. -/
theorem stripHash_eq_or (name : String) :
    stripHash name = name ∨
      ∃ hash, IsHash hash ∧ name = stripHash name ++ "_" ++ hash := by
  unfold stripHash
  simp only
  generalize read : name.toList.reverse.takeWhile (· != '_') = hash
  split
  · rename_i found
    simp only [Bool.and_eq_true, decide_eq_true_eq] at found
    obtain ⟨⟨size, digits⟩, short⟩ := found
    have whole := List.takeWhile_append_dropWhile (p := (· != '_'))
      (l := name.toList.reverse)
    have later : name.toList.reverse.dropWhile (· != '_') ≠ [] := by
      intro nothing
      rw [nothing, List.append_nil, read] at whole
      rw [whole] at short
      exact Nat.lt_irrefl _ short
    obtain ⟨c, base, rest⟩ := List.exists_cons_of_ne_nil later
    have stop := List.head?_dropWhile_not (· != '_') name.toList.reverse
    rw [rest] at stop
    obtain rfl : c = '_' := by simpa using stop
    rw [read, rest] at whole
    right
    refine ⟨String.ofList hash.reverse, ⟨?_, ?_⟩, ?_⟩
    · rw [String.toList_ofList, List.length_reverse, size]
      rfl
    · intro c member
      rw [String.toList_ofList, List.mem_reverse] at member
      exact isHexDigit_iff.mp (List.all_eq_true.mp digits c member)
    · have same := congrArg List.reverse whole
      rw [List.reverse_reverse] at same
      rw [← whole, drop_hash size]
      apply String.toList_inj.mp
      rw [← same]
      simp
  · exact .inl rfl

theorem stripHash_stem (function : HostFunction) :
    stripHash function.stem = function.stem := by
  cases function with
  | documentAccessor | getElementById | setInnerHtml | objectDropRef
  | objectCloneRef | throw =>
      decide +kernel

theorem stem_injective {first second : HostFunction}
    (same : first.stem = second.stem) : first = second := by
  revert same
  cases first <;> cases second <;> decide

theorem mem_all (function : HostFunction) : function ∈ all := by
  cases function <;> decide

/-! ## Names -/

theorem names_iff {function : HostFunction} {name : String} :
    function.Names name ↔ stripHash name = function.stem := by
  constructor
  · intro named
    cases named with
    | stem =>
        exact stripHash_stem function
    | hashed isHash =>
        exact stripHash_hashed function.stem isHash
  · intro stripped
    rcases stripHash_eq_or name with same | ⟨hash, isHash, split⟩
    · rw [← same, stripped]
      exact .stem
    · rw [split, stripped]
      exact .hashed isHash

/-- No name stands for two callbacks. -/
theorem Names.unique {first second : HostFunction} {name : String}
    (named : first.Names name) (namedOther : second.Names name) :
    first = second :=
  stem_injective ((names_iff.mp named).symm.trans (names_iff.mp namedOther))

theorem resolve?_eq_some_iff {name : String} {function : HostFunction} :
    resolve? name = some function ↔ function.Names name := by
  constructor
  · intro found
    have same := List.find?_some found
    exact names_iff.mpr (beq_iff_eq.mp same).symm
  · intro named
    cases found : resolve? name with
    | none =>
        have differs := List.find?_eq_none.mp found function (mem_all function)
        rw [names_iff.mp named] at differs
        exact absurd (beq_self_eq_true function.stem) differs
    | some other =>
        have same := List.find?_some found
        have namedOther := names_iff.mpr (beq_iff_eq.mp same).symm
        rw [namedOther.unique named]

end HostFunction

/-! ## Imports -/

variable {μ ς : Type} [Runtime μ ς]

/-- A callback is provided for an import: the import is a function with a name
of the callback, and with its parameters and results. -/
structure Provides (module : μ) (item : Import)
    (function : HostFunction) : Prop where
  named : function.Names item.name
  typed : ∃ type, item.kind = .function type ∧
    (Runtime.types module)[type]? = some function.signature

/-- What a fault says about an import that cannot be bound. -/
structure Blames (item : Import) (cause : StartFault) : Prop where
  kind : cause.fault.kind = .module
  importName : cause.fault.detail? .importName =
    some (item.module ++ "." ++ item.name)

variable {module : μ} {item : Import} {function : HostFunction}

theorem signature_ne_empty (function : HostFunction) :
    function.signature ≠ ⟨[], []⟩ := by
  cases function <;> decide

theorem bindImport_eq_ok_iff :
    bindImport module item = .ok function ↔
      Provides module item function := by
  constructor
  · intro bound
    unfold bindImport at bound
    split at bound
    · rename_i type isFunction
      split at bound
      · cases bound
      · rename_i found resolved
        simp only at bound
        split at bound
        · rename_i typed
          cases bound
          refine ⟨HostFunction.resolve?_eq_some_iff.mp resolved, type,
            isFunction, ?_⟩
          cases known : (Runtime.types module)[type]? with
          | none =>
              rw [known] at typed
              exact absurd typed.symm (signature_ne_empty function)
          | some found =>
              rw [known] at typed
              exact congrArg some typed
        · cases bound
    · cases bound
  · rintro ⟨named, type, isFunction, typed⟩
    have resolved := HostFunction.resolve?_eq_some_iff.mpr named
    simp [bindImport, isFunction, resolved, typed]

theorem blames_of_bindImport {cause : StartFault}
    (failed : bindImport module item = .error cause) : Blames item cause := by
  unfold bindImport at failed
  split at failed
  · split at failed
    · cases failed
      exact ⟨rfl, rfl⟩
    · simp only at failed
      split at failed
      · cases failed
      · cases failed
        exact ⟨rfl, rfl⟩
  · cases failed
    exact ⟨rfl, rfl⟩

/-- How the imports of a module are bound, on whatever runtime it is. -/
structure BindsImports (module : μ) : Prop where
  succeeds : (∃ functions, bindImports module = .ok functions) ↔
    ∀ item ∈ Runtime.imports module, ∃ function, Provides module item function
  /-- Each import is bound to the callback that is provided for it, in place. -/
  binds : ∀ functions, bindImports module = .ok functions →
    List.Forall₂ (Provides module) (Runtime.imports module) functions ∧
    ∀ place function, functions[place]? = some function →
      hostCalls functions place = Host.call function
  unambiguous : ∀ name (first second : HostFunction), first.Names name →
    second.Names name → first = second
  /-- The first import that no callback is provided for is blamed. -/
  blames : ∀ cause, bindImports module = .error cause →
    ∃ before item after, Runtime.imports module = before ++ item :: after ∧
      (∀ earlier ∈ before, ∃ function, Provides module earlier function) ∧
      (∀ function, ¬Provides module item function) ∧ Blames item cause

theorem bindImports_eq_ok_iff {functions : List HostFunction} :
    bindImports module = .ok functions ↔
      List.Forall₂ (Provides module) (Runtime.imports module) functions := by
  rw [bindImports, mapM_eq_ok_iff]
  simp only [bindImport_eq_ok_iff]

/-- A fault is about the first import that no callback is provided for. -/
theorem exists_of_bindImports_eq_error {cause : StartFault}
    (failed : bindImports module = .error cause) :
    ∃ before item after, Runtime.imports module = before ++ item :: after ∧
      (∀ earlier ∈ before, ∃ function, Provides module earlier function) ∧
      (∀ function, ¬Provides module item function) ∧ Blames item cause := by
  obtain ⟨before, item, after, split, good, bad⟩ :=
    exists_of_mapM_eq_error failed
  simp only [bindImport_eq_ok_iff] at good
  refine ⟨before, item, after, split, good, ?_, blames_of_bindImport bad⟩
  intro function provided
  rw [bindImport_eq_ok_iff.mpr provided] at bad
  cases bad

theorem bindsImports (module : μ) : BindsImports module where
  succeeds := by
    rw [bindImports, exists_mapM_eq_ok_iff]
    simp only [bindImport_eq_ok_iff]
  binds functions bound := by
    refine ⟨bindImports_eq_ok_iff.mp bound, ?_⟩
    intro place function there
    funext arguments memory host
    simp only [hostCalls, there]
  unambiguous name first second named namedOther := named.unique namedOther
  blames cause failed := exists_of_bindImports_eq_error failed

end KeymapViewer
