import KeymapViewer.CommandLine.Arguments
import Mathlib.Data.List.Induction
import Mathlib.Data.List.Nodup

/-!
The arguments of a command line: flags with their values, and words that stand
for themselves. Words are split into arguments in at most one way, and a grammar
takes the arguments one after another.
-/

namespace KeymapViewer

/-- A flag with its value, or a word that stands for itself. -/
inductive Argument where
  | valued (flag value : String)
  | positional (word : String)
  deriving DecidableEq, Repr

namespace Argument

def words : Argument → List String
  | .valued flag value => [flag, value]
  | .positional word => [word]

/-- The flag of an argument that has one. -/
def flag? : Argument → Option String
  | .valued flag _ => some flag
  | .positional _ => none

/-- What is said: the value of the flag, or the word. -/
def text : Argument → String
  | .valued _ value => value
  | .positional word => word

/-- An argument that may be given. Neither a value nor a word that stands for
itself is a flag. -/
inductive IsFit (takes : String → String → Prop) : Argument → Prop
  | valued {flag value : String} (taken : takes flag value)
      (plain : isFlag value = false) : IsFit takes (.valued flag value)
  | positional {word : String} (plain : isFlag word = false) :
      IsFit takes (.positional word)

end Argument

/-! ## Lists of arguments -/

/-- All words of the arguments, one after another. -/
def wordsOf (arguments : List Argument) : List String :=
  arguments.flatMap Argument.words

/-- What is said to a flag, in order; to none by the words that stand for
themselves. -/
def textsOf (flag : Option String) (arguments : List Argument) :
    List String :=
  (arguments.filter (·.flag? == flag)).map Argument.text

def positionals : List Argument → List String := textsOf none

/-- The value that a flag has where it is given last. -/
def lastValue? (flag : String) (arguments : List Argument) : Option String :=
  (textsOf (some flag) arguments).getLast?

/-- Two orders of the same arguments, in which those with the same flag stand in
the same order, and those without a flag as well. -/
def SameOrder (first second : List Argument) : Prop :=
  ∀ flag : Option String,
    first.filter (·.flag? == flag) = second.filter (·.flag? == flag)

/-- Words are split into arguments that may be given. -/
structure Splits (takes : String → String → Prop) (words : List String)
    (arguments : List Argument) : Prop where
  whole : wordsOf arguments = words
  fit : ∀ argument ∈ arguments, argument.IsFit takes

theorem textsOf_concat (flag : Option String) (arguments : List Argument)
    (argument : Argument) :
    textsOf flag (arguments ++ [argument]) =
      textsOf flag arguments ++
        if argument.flag? = flag then [argument.text] else [] := by
  simp only [textsOf, List.filter_append, List.map_append, List.filter_cons,
    List.filter_nil, beq_iff_eq]
  split
  · rfl
  · rfl

section Concat

variable (arguments : List Argument) (flag value word : String)

@[simp]
theorem positionals_concat_valued :
    positionals (arguments ++ [.valued flag value]) =
      positionals arguments := by
  simp [positionals, textsOf_concat, Argument.flag?]

@[simp]
theorem positionals_concat_positional :
    positionals (arguments ++ [.positional word]) =
      positionals arguments ++ [word] := by
  simp [positionals, textsOf_concat, Argument.flag?, Argument.text]

@[simp]
theorem lastValue?_concat_valued (name : String) :
    lastValue? flag (arguments ++ [.valued name value]) =
      if name = flag then some value else lastValue? flag arguments := by
  simp only [lastValue?, textsOf_concat, Argument.flag?, Option.some.injEq]
  split
  · exact List.getLast?_concat
  · rw [List.append_nil]

@[simp]
theorem lastValue?_concat_positional :
    lastValue? flag (arguments ++ [.positional word]) =
      lastValue? flag arguments := by
  simp [lastValue?, textsOf_concat, Argument.flag?]

end Concat

theorem wordsOf_eq_nil_iff {arguments : List Argument} :
    wordsOf arguments = [] ↔ arguments = [] := by
  constructor
  · intro noWords
    rw [wordsOf, List.flatMap_eq_nil_iff] at noWords
    apply List.eq_nil_iff_forall_not_mem.mpr
    intro argument member
    have empty := noWords argument member
    cases argument with
    | valued flag value =>
        cases empty
    | positional word =>
        cases empty
  · rintro rfl
    rfl

namespace SameOrder

variable {first second : List Argument}

theorem symm (same : SameOrder first second) : SameOrder second first :=
  fun flag => (same flag).symm

theorem textsOf_eq (same : SameOrder first second) (flag : Option String) :
    textsOf flag first = textsOf flag second := by
  rw [textsOf, same flag, textsOf]

theorem lastValue?_eq (same : SameOrder first second) (flag : String) :
    lastValue? flag first = lastValue? flag second := by
  rw [lastValue?, same.textsOf_eq, lastValue?]

theorem mem (same : SameOrder first second) {argument : Argument}
    (member : argument ∈ first) : argument ∈ second := by
  have kept : argument ∈ first.filter (·.flag? == argument.flag?) :=
    List.mem_filter.mpr ⟨member, beq_self_eq_true _⟩
  rw [same argument.flag?] at kept
  exact (List.mem_filter.mp kept).1

end SameOrder

section Splits

variable {takes : String → String → Prop} {words : List String}
  {first second : List Argument}

/-- Arguments may be given in any order. -/
theorem Splits.reorder (splits : Splits takes words first)
    (same : SameOrder first second) :
    Splits takes (wordsOf second) second := by
  refine ⟨rfl, ?_⟩
  intro argument member
  exact splits.fit argument (same.symm.mem member)

/-- Since flags differ from all other words, the first word of an argument tells
where it ends. -/
theorem Splits.unique
    (flags : ∀ {flag value}, takes flag value → isFlag flag = true)
    (splitsFirst : Splits takes words first)
    (splitsSecond : Splits takes words second) : first = second := by
  obtain ⟨rfl, fitFirst⟩ := splitsFirst
  obtain ⟨same, fitSecond⟩ := splitsSecond
  induction first generalizing second with
  | nil =>
      exact (wordsOf_eq_nil_iff.mp same).symm
  | cons argument rest inductionHypothesis =>
      obtain ⟨fit, fitRest⟩ := List.forall_mem_cons.mp fitFirst
      cases second with
      | nil =>
          exact absurd (wordsOf_eq_nil_iff.mp same.symm)
            (List.cons_ne_nil argument rest)
      | cons other others =>
          obtain ⟨fitOther, fitOthers⟩ := List.forall_mem_cons.mp fitSecond
          have next (sameRest : wordsOf others = wordsOf rest) :
              rest = others :=
            inductionHypothesis fitRest sameRest fitOthers
          simp only [wordsOf, List.flatMap_cons] at same
          cases fit with
          | valued taken plain =>
              cases fitOther with
              | valued takenOther plainOther =>
                  injection same with sameFlag same
                  injection same with sameValue sameRest
                  rw [sameFlag, sameValue, next sameRest]
              | positional plainOther =>
                  injection same with sameWord
                  rw [sameWord, flags taken] at plainOther
                  cases plainOther
          | positional plain =>
              cases fitOther with
              | valued takenOther plainOther =>
                  injection same with sameWord
                  rw [← sameWord, flags takenOther] at plain
                  cases plain
              | positional plainOther =>
                  injection same with sameWord sameRest
                  rw [sameWord, next sameRest]

end Splits

/-! ## Reading by a grammar -/

namespace Grammar

variable {σ : Type} {grammar : Grammar σ} {takes : String → String → Prop}
  {words : List String} {arguments : List Argument}

/-- What an argument does to what was read before. -/
def take (grammar : Grammar σ) (state : σ) :
    Argument → Except UsageFault σ
  | .valued name value =>
    match grammar.flag? name with
    | some flag => flag.set value state
    | none => .error (grammar.unknownFlag name)
  | .positional word => grammar.positional word state

theorem foldlM_take_concat (grammar : Grammar σ) (state : σ)
    (arguments : List Argument) (argument : Argument) :
    (arguments ++ [argument]).foldlM grammar.take state =
      arguments.foldlM grammar.take state >>= (grammar.take · argument) := by
  simp only [List.foldlM_append, List.foldlM_cons, List.foldlM_nil,
    bind_pure]

/-- The flags of a grammar differ, and take these values. -/
structure Takes (grammar : Grammar σ) (takes : String → String → Prop) :
    Prop where
  isFlag : ∀ flag ∈ grammar.flags, isFlag flag.name = true
  distinct : (grammar.flags.map Flag.name).Nodup
  taken_iff : ∀ name value, takes name value ↔
    ∃ flag ∈ grammar.flags, flag.name = name ∧
      ∃ before after, flag.set value before = .ok after

namespace Takes

theorem flag?_eq_some_iff (grammarTakes : grammar.Takes takes) {name : String}
    {flag : Flag σ} :
    grammar.flag? name = some flag ↔
      flag ∈ grammar.flags ∧ flag.name = name := by
  constructor
  · intro found
    have named := List.find?_some found
    exact ⟨List.mem_of_find?_eq_some found, beq_iff_eq.mp named⟩
  · rintro ⟨listed, rfl⟩
    cases found : grammar.flag? flag.name with
    | none =>
        have differs := List.find?_eq_none.mp found flag listed
        exact absurd (beq_self_eq_true flag.name) differs
    | some other =>
        have named := List.find?_some found
        have listedOther := List.mem_of_find?_eq_some found
        have same := List.inj_on_of_nodup_map grammarTakes.distinct
          listedOther listed (beq_iff_eq.mp named)
        rw [same]

theorem take_valued (grammarTakes : grammar.Takes takes) {flag : Flag σ}
    (listed : flag ∈ grammar.flags) (value : String) (state : σ) :
    grammar.take state (.valued flag.name value) = flag.set value state := by
  simp only [take, grammarTakes.flag?_eq_some_iff.mpr ⟨listed, rfl⟩]

theorem isFlag_of_taken (grammarTakes : grammar.Takes takes)
    {name value : String} (taken : takes name value) :
    KeymapViewer.isFlag name = true := by
  obtain ⟨flag, listed, rfl, -⟩ :=
    (grammarTakes.taken_iff name value).mp taken
  exact grammarTakes.isFlag flag listed

theorem flag?_of_plain (grammarTakes : grammar.Takes takes) {word : String}
    (plain : KeymapViewer.isFlag word = false) :
    grammar.flag? word = none := by
  cases found : grammar.flag? word with
  | none =>
      rfl
  | some flag =>
      obtain ⟨listed, rfl⟩ := grammarTakes.flag?_eq_some_iff.mp found
      rw [grammarTakes.isFlag flag listed] at plain
      cases plain

/-- There is one way at most to split words. -/
theorem unique (grammarTakes : grammar.Takes takes) {other : List Argument}
    (splits : Splits takes words arguments)
    (splitsOther : Splits takes words other) : arguments = other :=
  splits.unique grammarTakes.isFlag_of_taken splitsOther

/-- Words that are split are read argument by argument. -/
theorem read_of_splits (grammarTakes : grammar.Takes takes)
    (splits : Splits takes words arguments) (state : σ) :
    grammar.read words state = arguments.foldlM grammar.take state := by
  obtain ⟨rfl, fit⟩ := splits
  induction arguments generalizing state with
  | nil =>
      rfl
  | cons argument rest inductionHypothesis =>
      obtain ⟨fitFirst, fitRest⟩ := List.forall_mem_cons.mp fit
      rw [List.foldlM_cons]
      cases fitFirst with
      | @valued name value taken plain =>
          obtain ⟨flag, listed, named, -⟩ :=
            (grammarTakes.taken_iff name value).mp taken
          have known : grammar.flag? name = some flag :=
            grammarTakes.flag?_eq_some_iff.mpr ⟨listed, named⟩
          change grammar.read (name :: value :: wordsOf rest) state = _
          simp only [read, take, known, plain]
          cases flag.set value state with
          | error fault =>
              rfl
          | ok next =>
              exact inductionHypothesis next fitRest
      | @positional word plain =>
          change grammar.read (word :: wordsOf rest) state = _
          simp only [read, take, grammarTakes.flag?_of_plain plain, plain]
          cases grammar.positional word state with
          | error fault =>
              rfl
          | ok next =>
              exact inductionHypothesis next fitRest

/-- Words that are read without a fault can be split. -/
theorem exists_splits_of_read (grammarTakes : grammar.Takes takes)
    {state result : σ} (done : grammar.read words state = .ok result) :
    ∃ arguments, Splits takes words arguments := by
  fun_induction read grammar words state with
  | case1 state =>
      exact ⟨[], rfl, List.forall_mem_nil _⟩
  | case2 | case3 | case5 | case6 | case8 =>
      cases done
  | case4 word state flag known value rest plain next set inductionHypothesis =>
      obtain ⟨arguments, rfl, fit⟩ := inductionHypothesis done
      obtain ⟨listed, named⟩ := grammarTakes.flag?_eq_some_iff.mp known
      have taken : takes word value :=
        (grammarTakes.taken_iff word value).mpr
          ⟨flag, listed, named, _, _, set⟩
      refine ⟨.valued word value :: arguments, rfl, ?_⟩
      exact List.forall_mem_cons.mpr
        ⟨.valued taken (Bool.eq_false_iff.mpr plain), fit⟩
  | case7 word rest state unknown plain next set inductionHypothesis =>
      obtain ⟨arguments, rfl, fit⟩ := inductionHypothesis done
      refine ⟨.positional word :: arguments, rfl, ?_⟩
      exact List.forall_mem_cons.mpr
        ⟨.positional (Bool.eq_false_iff.mpr plain), fit⟩

end Takes

/-! ## Grammars with one word that stands for itself -/

/-- Of the words that stand for themselves, by what counts as such, a grammar
takes one; the next one is a fault. -/
structure TakesOne (grammar : Grammar σ) (takes : String → String → Prop)
    (counted : List Argument → List String) (draftOf : List Argument → σ)
    (surplus : UsageFault) : Prop where
  start : counted [] = []
  keeps : ∀ earlier name value,
    counted (earlier ++ [.valued name value]) = counted earlier
  counts : ∀ earlier word,
    (counted (earlier ++ [.positional word])).length ≤ 1 ↔
      counted earlier = []
  valued : ∀ earlier name value, takes name value →
    grammar.take (draftOf earlier) (.valued name value) =
      .ok (draftOf (earlier ++ [.valued name value]))
  positional : ∀ earlier word,
    grammar.take (draftOf earlier) (.positional word) =
      if counted earlier = [] then
        .ok (draftOf (earlier ++ [.positional word]))
      else .error surplus

namespace TakesOne

variable {counted : List Argument → List String}
  {draftOf : List Argument → σ} {surplus : UsageFault}

-- What is read depends on the last value of a flag, so the arguments are taken
-- away from the end.
theorem foldlM_take (one : grammar.TakesOne takes counted draftOf surplus)
    (fit : ∀ argument ∈ arguments, argument.IsFit takes) :
    arguments.foldlM grammar.take (draftOf []) =
      if (counted arguments).length ≤ 1 then .ok (draftOf arguments)
      else .error surplus := by
  induction arguments using List.reverseRecOn with
  | nil =>
      rw [one.start]
      rfl
  | append_singleton earlier argument inductionHypothesis =>
      obtain ⟨fitEarlier, fitLast⟩ := List.forall_mem_append.mp fit
      rw [foldlM_take_concat, inductionHypothesis fitEarlier]
      cases fitLast argument (List.mem_singleton_self argument) with
      | @valued name value taken plain =>
          rw [one.keeps]
          split
          · exact one.valued earlier name value taken
          · rfl
      | @positional word plain =>
          have next := one.positional earlier word
          by_cases noneYet : counted earlier = []
          · rw [if_pos noneYet] at next
            rw [if_pos ((one.counts earlier word).mpr noneYet), noneYet]
            exact next
          · rw [if_neg noneYet] at next
            rw [if_neg (noneYet ∘ (one.counts earlier word).mp)]
            split
            · exact next
            · rfl

theorem read_of_splits (one : grammar.TakesOne takes counted draftOf surplus)
    (grammarTakes : grammar.Takes takes)
    (splits : Splits takes words arguments) :
    grammar.read words (draftOf []) =
      if (counted arguments).length ≤ 1 then .ok (draftOf arguments)
      else .error surplus :=
  (grammarTakes.read_of_splits splits _).trans (one.foldlM_take splits.fit)

end TakesOne

end Grammar

end KeymapViewer
