import KeymapViewer.Proofs.CommandLine.Argument
import KeymapViewer.Proofs.Fault

/-!
Command lines that render or load. They are read exactly if they are split into
arguments that the command takes, and no more words stand for themselves than it
can do with; the last value of a flag counts, and the order of different flags
does not.
-/

namespace KeymapViewer

open Text

namespace PageCommand

/-- The flags of a command, with the values that they take. -/
inductive Takes : PageCommand → String → String → Prop
  | module {command : PageCommand} (path : String) :
      Takes command "--module" path
  | out {command : PageCommand} (path : String) : Takes command "--out" path
  | layer {value : String} {layer : Nat}
      (number : readWord? 64 value = some layer) :
      Takes .render "--layer" value

/-- Whether a command can do with so many words that stand for themselves. -/
def Admits : PageCommand → Nat → Prop
  | .render, count => count = 1
  | .load, count => count ≤ 1

/-- What is said to the flags. -/
def optionsOf (arguments : List Argument) : RenderOptions where
  module := lastValue? "--module" arguments
  out := lastValue? "--out" arguments
  layer := (lastValue? "--layer" arguments).bind (readWord? 64)

/-- What a command with these arguments comes to. -/
def outcome (command : PageCommand) (arguments : List Argument) :
    Except UsageFault Command :=
  match command, positionals arguments with
  | .render, [source] => .ok (.render source (optionsOf arguments))
  | .render, [] => .error .missingSource
  | .load, [query] => .ok (.load query (optionsOf arguments))
  | .load, [] => .ok (.load "" (optionsOf arguments))
  | command, _ :: _ :: _ => .error (.secondPositional command)

/-! ## What the grammar takes -/

theorem mem_flags_iff {command : PageCommand} {flag : Flag PageDraft} :
    flag ∈ command.flags ↔
      flag = PageDraft.moduleFlag ∨ flag = PageDraft.outFlag ∨
        command = .render ∧ flag = PageDraft.layerFlag := by
  cases command with
  | render =>
      simp [flags]
  | load =>
      simp [flags]

theorem grammar_takes (command : PageCommand) :
    command.grammar.Takes command.Takes where
  isFlag := by
    cases command with
    | render =>
        decide +kernel
    | load =>
        decide +kernel
  distinct := by
    cases command with
    | render =>
        decide
    | load =>
        decide
  taken_iff name value := by
    constructor
    · intro taken
      cases taken with
      | module path =>
          exact ⟨_, mem_flags_iff.mpr (.inl rfl), rfl, .empty, _, rfl⟩
      | out path =>
          exact ⟨_, mem_flags_iff.mpr (.inr (.inl rfl)), rfl, .empty, _, rfl⟩
      | layer number =>
          obtain ⟨after, set⟩ : ∃ after,
              PageDraft.layerFlag.set value .empty = .ok after := by
            simp only [PageDraft.layerFlag, number]
            exact ⟨_, rfl⟩
          exact ⟨_, mem_flags_iff.mpr (.inr (.inr ⟨rfl, rfl⟩)), rfl, .empty,
            after, set⟩
    · rintro ⟨flag, listed, rfl, before, after, set⟩
      rcases mem_flags_iff.mp listed with rfl | rfl | ⟨rfl, rfl⟩
      · exact .module value
      · exact .out value
      · cases number : readWord? 64 value with
        | none =>
            simp only [PageDraft.layerFlag, number] at set
            cases set
        | some layer =>
            exact .layer number

/-! ## What the arguments come to -/

/-- What is read of arguments as long as there is no fault. -/
def draftOf (arguments : List Argument) : PageDraft where
  positional := (positionals arguments).head?
  options := optionsOf arguments

variable {command : PageCommand} {arguments : List Argument}

/-- A flag sets what was said to it last. -/
theorem take_valued {flag value : String} (taken : command.Takes flag value)
    (earlier : List Argument) :
    command.grammar.take (draftOf earlier) (.valued flag value) =
      .ok (draftOf (earlier ++ [.valued flag value])) := by
  have grammarTakes := command.grammar_takes
  cases taken with
  | module path =>
      have listed : PageDraft.moduleFlag ∈ command.flags :=
        mem_flags_iff.mpr (.inl rfl)
      refine (grammarTakes.take_valued listed value _).trans ?_
      simp [PageDraft.moduleFlag, draftOf, optionsOf]
  | out path =>
      have listed : PageDraft.outFlag ∈ command.flags :=
        mem_flags_iff.mpr (.inr (.inl rfl))
      refine (grammarTakes.take_valued listed value _).trans ?_
      simp [PageDraft.outFlag, draftOf, optionsOf]
  | layer number =>
      have listed : PageDraft.layerFlag ∈ flags .render :=
        mem_flags_iff.mpr (.inr (.inr ⟨rfl, rfl⟩))
      refine (grammarTakes.take_valued listed value _).trans ?_
      simp [PageDraft.layerFlag, draftOf, optionsOf, number]

theorem take_positional (word : String) (earlier : List Argument) :
    command.grammar.take (draftOf earlier) (.positional word) =
      if positionals earlier = [] then
        .ok (draftOf (earlier ++ [.positional word]))
      else .error (.secondPositional command) := by
  rw [Grammar.take]
  cases said : positionals earlier with
  | nil =>
      simp [grammar, draftOf, optionsOf, said]
  | cons first others =>
      simp [grammar, draftOf, said]

theorem grammar_takesOne (command : PageCommand) :
    command.grammar.TakesOne command.Takes positionals draftOf
      (.secondPositional command) where
  start := rfl
  keeps earlier name value := positionals_concat_valued earlier name value
  counts earlier word := by
    rw [positionals_concat_positional, List.length_append,
      List.length_singleton, ← List.length_eq_zero_iff]
    omega
  valued earlier name value taken := take_valued taken earlier
  positional earlier word := take_positional word earlier

/-! ## What is read -/

/-- Whatever words are split into arguments are read as these. -/
theorem ofWords_of_splits {words : List String}
    (splits : Splits command.Takes words arguments) :
    Command.ofWords (command.name :: words) = command.outcome arguments := by
  have read : command.read words =
      if (positionals arguments).length ≤ 1 then .ok (draftOf arguments)
      else .error (.secondPositional command) :=
    command.grammar_takesOne.read_of_splits command.grammar_takes splits
  cases command with
  | render =>
      change Command.readRender words = _
      unfold Command.readRender outcome
      rw [read, draftOf]
      rcases positionals arguments with _ | ⟨source, _ | ⟨second, more⟩⟩
      · rfl
      · rfl
      · rfl
  | load =>
      change Command.readLoad words = _
      unfold Command.readLoad outcome
      rw [read, draftOf]
      rcases positionals arguments with _ | ⟨query, _ | ⟨second, more⟩⟩
      · rfl
      · rfl
      · rfl

theorem exists_splits_of_ofWords {words : List String} {parsed : Command}
    (done : Command.ofWords (command.name :: words) = .ok parsed) :
    ∃ arguments, Splits command.Takes words arguments := by
  have read : ∃ draft, command.read words = .ok draft := by
    cases command with
    | render =>
        obtain ⟨draft, read, -⟩ := exists_of_bind_eq_ok done
        exact ⟨draft, read⟩
    | load =>
        obtain ⟨draft, read, -⟩ := exists_of_bind_eq_ok done
        exact ⟨draft, read⟩
  obtain ⟨draft, read⟩ := read
  exact command.grammar_takes.exists_splits_of_read read

theorem exists_outcome_iff :
    (∃ parsed, command.outcome arguments = .ok parsed) ↔
      command.Admits (positionals arguments).length := by
  unfold outcome
  cases command with
  | render =>
      rcases positionals arguments with _ | ⟨source, _ | ⟨second, more⟩⟩
      · simp [Admits]
      · simp [Admits]
      · simp [Admits]
  | load =>
      rcases positionals arguments with _ | ⟨query, _ | ⟨second, more⟩⟩
      · simp [Admits]
      · simp [Admits]
      · simp [Admits]

theorem outcome_of_sameOrder {other : List Argument}
    (same : SameOrder arguments other) :
    command.outcome other = command.outcome arguments := by
  have options : optionsOf other = optionsOf arguments := by
    simp only [optionsOf, same.lastValue?_eq]
  unfold outcome
  rw [options, positionals, same.textsOf_eq]

/-- How the words after the name of a command are read. -/
structure ReadsArguments (command : PageCommand) (words : List String) :
    Prop where
  /-- They are read exactly if they are split into arguments of the command,
  with as many words that stand for themselves as it can do with. -/
  accepts : (∃ parsed, Command.ofWords (command.name :: words) = .ok parsed) ↔
    ∃ arguments, Splits command.Takes words arguments ∧
      command.Admits (positionals arguments).length
  unique : ∀ first second, Splits command.Takes words first →
    Splits command.Takes words second → first = second
  means : ∀ arguments, Splits command.Takes words arguments →
    Command.ofWords (command.name :: words) = command.outcome arguments
  /-- The order of different flags does not count. -/
  reorders : ∀ arguments other, Splits command.Takes words arguments →
    SameOrder arguments other →
      Command.ofWords (command.name :: wordsOf other) =
        Command.ofWords (command.name :: words)

theorem readsArguments (command : PageCommand) (words : List String) :
    command.ReadsArguments words where
  accepts := by
    constructor
    · rintro ⟨parsed, done⟩
      obtain ⟨arguments, splits⟩ := exists_splits_of_ofWords done
      refine ⟨arguments, splits, exists_outcome_iff.mp ⟨parsed, ?_⟩⟩
      rw [← ofWords_of_splits splits, done]
    · rintro ⟨arguments, splits, admitted⟩
      rw [ofWords_of_splits splits]
      exact exists_outcome_iff.mpr admitted
  unique first second splitsFirst splitsSecond :=
    command.grammar_takes.unique splitsFirst splitsSecond
  means arguments splits := ofWords_of_splits splits
  reorders arguments other splits same := by
    rw [ofWords_of_splits splits, ofWords_of_splits (splits.reorder same)]
    exact outcome_of_sameOrder same

end PageCommand

end KeymapViewer
