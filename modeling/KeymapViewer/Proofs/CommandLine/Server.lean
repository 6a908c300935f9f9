import KeymapViewer.Proofs.CommandLine.Argument
import KeymapViewer.Proofs.Fault
import Mathlib.Data.List.TakeWhile

/-!
Command lines that serve. Like those that draw they are read argument by
argument, whatever the order of the flags. They should name one keymap file, but
an empty path is taken for none yet: it is dropped without a fault when a path
follows it.
-/

namespace KeymapViewer

open Text

namespace ServerDraft

/-- The flags of the server, with the values that they take. -/
inductive Takes : String → String → Prop
  | module (path : String) : Takes "--module" path
  | host (name : String) : Takes "--host" name
  | port {value : String} {port : Nat}
      (number : readWord? 16 value = some port) : Takes "--port" value
  | interval {value : String} {interval : Nat}
      (number : readWord? 64 value = some interval)
      (positive : 0 < interval) : Takes "--poll-interval-ms" value

/-- What is said to the flags about the server. -/
def overridesOf (arguments : List Argument) : ServerOverrides where
  host := lastValue? "--host" arguments
  port := (lastValue? "--port" arguments).bind (readWord? 16)
  pollIntervalMs :=
    (lastValue? "--poll-interval-ms" arguments).bind (readWord? 64)

/-- The paths from the first one on that is not empty. -/
def paths (arguments : List Argument) : List String :=
  (positionals arguments).dropWhile String.isEmpty

/-- What a command line that serves with these arguments comes to. -/
def outcome (arguments : List Argument) : Except UsageFault Command :=
  match paths arguments with
  | [] => .error .missingKeymap
  | [keymap] =>
    .ok (.dev keymap (lastValue? "--module" arguments)
      (overridesOf arguments))
  | _ :: _ :: _ => .error .secondKeymap

/-! ## What the grammar takes -/

theorem set_intervalFlag {value : String} {interval : Nat}
    (number : readWord? 64 value = some interval) (positive : 0 < interval)
    (draft : ServerDraft) :
    intervalFlag.set value draft =
      .ok { draft with
        overrides :=
          { draft.overrides with pollIntervalMs := some interval } } := by
  obtain ⟨below, rfl⟩ := Nat.exists_eq_add_one.mpr positive
  simp only [intervalFlag, number]

theorem grammar_takes : grammar.Takes Takes where
  isFlag := by
    decide +kernel
  distinct := by
    decide
  taken_iff name value := by
    constructor
    · intro taken
      cases taken with
      | module path =>
          exact ⟨moduleFlag, by simp [grammar], rfl, empty, _, rfl⟩
      | host name =>
          exact ⟨hostFlag, by simp [grammar], rfl, empty, _, rfl⟩
      | port number =>
          obtain ⟨after, set⟩ : ∃ after,
              portFlag.set value empty = .ok after := by
            simp only [portFlag, number]
            exact ⟨_, rfl⟩
          exact ⟨portFlag, by simp [grammar], rfl, empty, after, set⟩
      | interval number positive =>
          exact ⟨intervalFlag, by simp [grammar], rfl, empty, _,
            set_intervalFlag number positive empty⟩
    · rintro ⟨flag, listed, rfl, before, after, set⟩
      simp only [grammar, List.mem_cons, List.not_mem_nil, or_false] at listed
      rcases listed with rfl | rfl | rfl | rfl
      · exact .module value
      · exact .host value
      · cases number : readWord? 16 value with
        | none =>
            simp only [portFlag, number] at set
            cases set
        | some port =>
            exact .port number
      · cases number : readWord? 64 value with
        | none =>
            simp only [intervalFlag, number] at set
            cases set
        | some interval =>
            cases interval with
            | zero =>
                simp only [intervalFlag, number] at set
                cases set
            | succ before =>
                exact .interval number (Nat.succ_pos before)

/-! ## What the arguments come to -/

/-- What is read of arguments as long as there is no fault. -/
def draftOf (arguments : List Argument) : ServerDraft where
  keymap := (paths arguments).headD ""
  module := lastValue? "--module" arguments
  overrides := overridesOf arguments

variable {arguments : List Argument}

/-- A flag sets what was said to it last. -/
theorem take_valued {flag value : String} (taken : Takes flag value)
    (earlier : List Argument) :
    grammar.take (draftOf earlier) (.valued flag value) =
      .ok (draftOf (earlier ++ [.valued flag value])) := by
  cases taken with
  | module path =>
      have listed : moduleFlag ∈ grammar.flags := by simp [grammar]
      refine (grammar_takes.take_valued listed value _).trans ?_
      simp [moduleFlag, draftOf, overridesOf, paths]
  | host name =>
      have listed : hostFlag ∈ grammar.flags := by simp [grammar]
      refine (grammar_takes.take_valued listed value _).trans ?_
      simp [hostFlag, draftOf, overridesOf, paths]
  | port number =>
      have listed : portFlag ∈ grammar.flags := by simp [grammar]
      refine (grammar_takes.take_valued listed value _).trans ?_
      simp [portFlag, draftOf, overridesOf, paths, number]
  | interval number positive =>
      have listed : intervalFlag ∈ grammar.flags := by simp [grammar]
      refine (grammar_takes.take_valued listed value _).trans ?_
      rw [set_intervalFlag number positive]
      simp [draftOf, overridesOf, paths, number]

theorem paths_concat_positional (earlier : List Argument) (word : String) :
    paths (earlier ++ [.positional word]) =
      if paths earlier = [] then [word].dropWhile String.isEmpty
      else paths earlier ++ [word] := by
  rw [paths, positionals_concat_positional, List.dropWhile_append, ← paths]
  by_cases noPath : paths earlier = []
  · rw [if_pos noPath, noPath]
    rfl
  · rw [if_neg noPath, if_neg]
    rwa [List.isEmpty_iff]

theorem isEmpty_head_paths {earlier : List Argument} {first : String}
    {others : List String} (said : paths earlier = first :: others) :
    first.isEmpty = false := by
  have head := List.head?_dropWhile_not String.isEmpty (positionals earlier)
  rw [← paths, said] at head
  exact head

theorem take_positional (word : String) (earlier : List Argument) :
    grammar.take (draftOf earlier) (.positional word) =
      if paths earlier = [] then
        .ok (draftOf (earlier ++ [.positional word]))
      else .error .secondKeymap := by
  rw [Grammar.take]
  cases said : paths earlier with
  | nil =>
      have keymap : ([word].dropWhile String.isEmpty).head?.getD "" = word := by
        cases empty : word.isEmpty with
        | true =>
            rw [List.dropWhile_cons_of_pos empty]
            exact (String.isEmpty_iff.mp empty).symm
        | false =>
            rw [List.dropWhile_cons_of_neg (Bool.eq_false_iff.mp empty)]
            rfl
      simp [grammar, draftOf, overridesOf, said, paths_concat_positional,
        keymap]
  | cons first others =>
      have nonempty := isEmpty_head_paths said
      simp only [grammar, draftOf, said, List.headD_cons, nonempty]
      rfl

theorem grammar_takesOne :
    grammar.TakesOne Takes paths draftOf .secondKeymap where
  start := rfl
  keeps earlier name value := by
    rw [paths, positionals_concat_valued, paths]
  counts earlier word := by
    rw [paths_concat_positional]
    by_cases noPath : paths earlier = []
    · have one : ([word].dropWhile String.isEmpty).length ≤ 1 :=
        (List.dropWhile_sublist String.isEmpty).length_le
      rw [if_pos noPath]
      exact iff_of_true one noPath
    · have path := List.length_pos_iff.mpr noPath
      rw [if_neg noPath, List.length_append, List.length_singleton]
      exact iff_of_false (by omega) noPath
  valued earlier name value taken := take_valued taken earlier
  positional earlier word := take_positional word earlier

/-! ## What is read -/

/-- Whatever words are split into arguments are read as these. -/
theorem ofWords_of_splits {words : List String}
    (splits : Splits Takes words arguments) :
    Command.ofWords ("dev" :: words) = outcome arguments := by
  have read : grammar.read words empty =
      if (paths arguments).length ≤ 1 then .ok (draftOf arguments)
      else .error .secondKeymap :=
    grammar_takesOne.read_of_splits grammar_takes splits
  change Command.readDev words = _
  unfold Command.readDev outcome
  rw [read, draftOf]
  rcases said : paths arguments with _ | ⟨keymap, _ | ⟨second, more⟩⟩
  · rfl
  · have nonempty := isEmpty_head_paths said
    have one : [keymap].length ≤ 1 := Nat.le_refl 1
    rw [if_pos one]
    simp only [bind, Except.bind, List.headD_cons, nonempty,
      Bool.false_eq_true, ↓reduceIte]
    rfl
  · rfl

theorem exists_splits_of_ofWords {words : List String} {parsed : Command}
    (done : Command.ofWords ("dev" :: words) = .ok parsed) :
    ∃ arguments, Splits Takes words arguments := by
  obtain ⟨draft, read, -⟩ := exists_of_bind_eq_ok done
  exact grammar_takes.exists_splits_of_read read

/-- Empty paths are dropped in front of the one that is served. -/
theorem paths_eq_singleton_iff {keymap : String} :
    paths arguments = [keymap] ↔
      keymap ≠ "" ∧ ∃ skipped,
        positionals arguments = List.replicate skipped "" ++ [keymap] := by
  constructor
  · intro said
    have nonempty := isEmpty_head_paths said
    refine ⟨?_, ((positionals arguments).takeWhile String.isEmpty).length, ?_⟩
    · rintro rfl
      cases nonempty
    · have split := List.takeWhile_append_dropWhile (p := String.isEmpty)
        (l := positionals arguments)
      rw [← paths, said] at split
      have skipped : (positionals arguments).takeWhile String.isEmpty =
          List.replicate
            ((positionals arguments).takeWhile String.isEmpty).length "" := by
        apply List.eq_replicate_of_mem
        intro word member
        exact String.isEmpty_iff.mp (List.mem_takeWhile_imp member)
      rw [← skipped, split]
  · rintro ⟨nonempty, skipped, said⟩
    have empty : ∀ word ∈ List.replicate skipped "", word.isEmpty = true := by
      intro word member
      rw [List.eq_of_mem_replicate member]
      rfl
    have kept : ¬keymap.isEmpty = true := by
      rwa [String.isEmpty_iff]
    rw [paths, said, List.dropWhile_append_of_pos empty,
      List.dropWhile_cons_of_neg kept]

theorem exists_outcome_iff :
    (∃ parsed, outcome arguments = .ok parsed) ↔
      ∃ keymap, paths arguments = [keymap] := by
  unfold outcome
  rcases paths arguments with _ | ⟨keymap, _ | ⟨second, more⟩⟩
  · simp
  · simp
  · simp

theorem outcome_of_sameOrder {other : List Argument}
    (same : SameOrder arguments other) : outcome other = outcome arguments := by
  have overrides : overridesOf other = overridesOf arguments := by
    simp only [overridesOf, same.lastValue?_eq]
  have said : paths other = paths arguments := by
    rw [paths, positionals, ← same.textsOf_eq, paths, positionals]
  unfold outcome
  rw [said, overrides, same.lastValue?_eq]

/-- How the words after the name of the command are read. -/
structure ReadsPaths (words : List String) : Prop where
  /-- They are read exactly if they are split into arguments, and one path that
  is not empty is the last of the words that stand for themselves, after empty
  ones only. -/
  accepts : (∃ parsed, Command.ofWords ("dev" :: words) = .ok parsed) ↔
    ∃ arguments skipped keymap, Splits Takes words arguments ∧
      positionals arguments = List.replicate skipped "" ++ [keymap] ∧
      keymap ≠ ""
  unique : ∀ first second, Splits Takes words first →
    Splits Takes words second → first = second
  means : ∀ arguments, Splits Takes words arguments →
    Command.ofWords ("dev" :: words) = outcome arguments
  /-- The order of different flags does not count. -/
  reorders : ∀ arguments other, Splits Takes words arguments →
    SameOrder arguments other →
      Command.ofWords ("dev" :: wordsOf other) =
        Command.ofWords ("dev" :: words)

theorem readsPaths (words : List String) : ReadsPaths words where
  accepts := by
    constructor
    · rintro ⟨parsed, done⟩
      obtain ⟨arguments, splits⟩ := exists_splits_of_ofWords done
      rw [ofWords_of_splits splits] at done
      obtain ⟨keymap, said⟩ := exists_outcome_iff.mp ⟨parsed, done⟩
      obtain ⟨nonempty, skipped, said⟩ := paths_eq_singleton_iff.mp said
      exact ⟨arguments, skipped, keymap, splits, said, nonempty⟩
    · rintro ⟨arguments, skipped, keymap, splits, said, nonempty⟩
      rw [ofWords_of_splits splits]
      exact exists_outcome_iff.mpr
        ⟨keymap, paths_eq_singleton_iff.mpr ⟨nonempty, skipped, said⟩⟩
  unique first second splitsFirst splitsSecond :=
    grammar_takes.unique splitsFirst splitsSecond
  means arguments splits := ofWords_of_splits splits
  reorders arguments other splits same := by
    rw [ofWords_of_splits splits, ofWords_of_splits (splits.reorder same)]
    exact outcome_of_sameOrder same

/-! ## One keymap file -/

/-- Words that are read only if they name one keymap file. -/
structure NamesOneKeymap (words : List String) : Prop where
  accepts : (∃ parsed, Command.ofWords ("dev" :: words) = .ok parsed) ↔
    ∃ arguments keymap, Splits Takes words arguments ∧
      positionals arguments = [keymap] ∧ keymap ≠ ""
  unique : ∀ first second, Splits Takes words first →
    Splits Takes words second → first = second
  /-- A second word that stands for itself is a fault, even if one is empty. -/
  refuses : ∀ arguments, Splits Takes words arguments →
    2 ≤ (positionals arguments).length →
      ∃ fault, Command.ofWords ("dev" :: words) = .error fault
  means : ∀ arguments keymap, Splits Takes words arguments →
    positionals arguments = [keymap] → keymap ≠ "" →
      Command.ofWords ("dev" :: words) =
        .ok (.dev keymap (lastValue? "--module" arguments)
          (overridesOf arguments))
  reorders : ∀ arguments other, Splits Takes words arguments →
    SameOrder arguments other →
      Command.ofWords ("dev" :: wordsOf other) =
        Command.ofWords ("dev" :: words)

/-- Words with an empty path in front of the one that is served. -/
def SkipsEmpty (words : List String) : Prop :=
  ∃ arguments skipped keymap, Splits Takes words arguments ∧
    positionals arguments = List.replicate (skipped + 1) "" ++ [keymap] ∧
    keymap ≠ ""

variable {words : List String}

/-- Unless an empty path is skipped there is one word that stands for itself. -/
theorem exists_keymap_of_not_skipsEmpty (kept : ¬SkipsEmpty words)
    {parsed : Command}
    (done : Command.ofWords ("dev" :: words) = .ok parsed) :
    ∃ arguments keymap, Splits Takes words arguments ∧
      positionals arguments = [keymap] ∧ keymap ≠ "" := by
  obtain ⟨arguments, skipped, keymap, splits, said, nonempty⟩ :=
    (readsPaths words).accepts.mp ⟨parsed, done⟩
  cases skipped with
  | zero =>
      exact ⟨arguments, keymap, splits, said, nonempty⟩
  | succ skipped =>
      exact absurd ⟨arguments, skipped, keymap, splits, said, nonempty⟩ kept

theorem outcome_of_singleton {keymap : String}
    (said : positionals arguments = [keymap]) (nonempty : keymap ≠ "") :
    outcome arguments =
      .ok (.dev keymap (lastValue? "--module" arguments)
        (overridesOf arguments)) := by
  have path : paths arguments = [keymap] :=
    paths_eq_singleton_iff.mpr ⟨nonempty, 0, said⟩
  rw [outcome, path]

theorem namesOneKeymap_of_not_skipsEmpty (kept : ¬SkipsEmpty words) :
    NamesOneKeymap words where
  accepts := by
    constructor
    · rintro ⟨parsed, done⟩
      exact exists_keymap_of_not_skipsEmpty kept done
    · rintro ⟨arguments, keymap, splits, said, nonempty⟩
      rw [ofWords_of_splits splits, outcome_of_singleton said nonempty]
      exact ⟨_, rfl⟩
  unique := (readsPaths words).unique
  refuses arguments splits many := by
    cases done : Command.ofWords ("dev" :: words) with
    | error fault =>
        exact ⟨fault, rfl⟩
    | ok parsed =>
        obtain ⟨other, keymap, splitsOther, said, -⟩ :=
          exists_keymap_of_not_skipsEmpty kept done
        rw [grammar_takes.unique splits splitsOther, said] at many
        exact absurd many (Nat.not_succ_le_self 1)
  means arguments keymap splits said nonempty := by
    rw [ofWords_of_splits splits, outcome_of_singleton said nonempty]
  reorders := (readsPaths words).reorders

theorem not_namesOneKeymap_of_skipsEmpty (skips : SkipsEmpty words) :
    ¬NamesOneKeymap words := by
  obtain ⟨arguments, skipped, keymap, splits, said, nonempty⟩ := skips
  intro names
  have many : 2 ≤ (positionals arguments).length := by
    rw [said, List.length_append, List.length_replicate,
      List.length_singleton]
    omega
  obtain ⟨fault, refused⟩ := names.refuses arguments splits many
  obtain ⟨parsed, done⟩ := (readsPaths words).accepts.mpr
    ⟨arguments, skipped + 1, keymap, splits, said, nonempty⟩
  rw [done] at refused
  cases refused

/-- The words after the name of the command are read as one keymap file and
flags in any order, exactly if no empty path is skipped. -/
theorem namesOneKeymap_iff (words : List String) :
    ReadsPaths words ∧ (NamesOneKeymap words ↔ ¬SkipsEmpty words) := by
  refine ⟨readsPaths words, ?_, namesOneKeymap_of_not_skipsEmpty⟩
  intro names skips
  exact not_namesOneKeymap_of_skipsEmpty skips names

/-- Two words that stand for themselves are read, since the first is empty. -/
theorem not_namesOneKeymap_of_empty :
    Command.ofWords ["dev", "", "keymap.txt"] =
        .ok (.dev "keymap.txt" none .none) ∧
      ¬NamesOneKeymap ["", "keymap.txt"] := by
  let arguments : List Argument :=
    [.positional "", .positional "keymap.txt"]
  have splits : Splits Takes ["", "keymap.txt"] arguments := by
    refine ⟨rfl, ?_⟩
    intro argument member
    simp only [arguments, List.mem_cons, List.not_mem_nil, or_false] at member
    rcases member with rfl | rfl
    · exact .positional (by decide +kernel)
    · exact .positional (by decide +kernel)
  constructor
  · exact ofWords_of_splits splits
  · apply not_namesOneKeymap_of_skipsEmpty
    exact ⟨arguments, 0, "keymap.txt", splits, rfl, by decide⟩

end ServerDraft

end KeymapViewer
