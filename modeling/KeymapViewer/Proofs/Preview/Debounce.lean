import KeymapViewer.Preview.Session
import Mathlib.Data.Nat.Find
import Mathlib.Order.Basic

/-!
When a vigil draws. It draws a keymap that has changed since it was last drawn,
once no change has come for a whole window; so a burst of changes is drawn once,
and no change is lost.
-/

namespace KeymapViewer.Preview

namespace Vigil

/-! ## Places in a row of observations -/

/-- What the watcher says at a place. -/
def Reports (observations : List Observation) (poll : Poll) (place : Nat) :
    Prop :=
  observations[place]?.map Observation.poll = some poll

/-- The vigil draws after what it observes at a place. -/
def Draws (window : Nat) (observations : List Observation) (place : Nat) :
    Prop :=
  (start.run window observations).1[place]?.map Reaction.draws = some true

/-- The watcher has not closed up to a place. -/
def IsOpen (observations : List Observation) (place : Nat) : Prop :=
  ∀ earlier ≤ place, ¬ Reports observations .closed earlier

/-- The latest change up to a place. -/
structure IsLatest (observations : List Observation) (place latest : Nat) :
    Prop where
  upTo : latest ≤ place
  changed : Reports observations .changed latest
  last : ∀ later ≤ place, latest < later → ¬ Reports observations .changed later

/-- A change has come that has not been drawn since. -/
def IsPending (window : Nat) (observations : List Observation)
    (place : Nat) : Prop :=
  ∃ change ≤ place, Reports observations .changed change ∧
    ∀ between < place, change ≤ between →
      ¬ Draws window observations between

/-- A whole window has passed since the latest change when it is decided
whether to draw. -/
def IsQuiet (window : Nat) (observations : List Observation)
    (place : Nat) : Prop :=
  ∀ latest change now, IsLatest observations place latest →
    observations[latest]? = some change → observations[place]? = some now →
    change.heardAt + window ≤ now.decidedAt

/-- The clock never goes back. -/
structure Clocked (observations : List Observation) : Prop where
  within : ∀ observation ∈ observations,
    observation.heardAt ≤ observation.decidedAt
  between : observations.Pairwise fun earlier later =>
    earlier.decidedAt ≤ later.heardAt

section

variable {window : Nat} {observations : List Observation}
  {place first second : Nat} {observation earlier later : Observation}

theorem Clocked.decidedAt_le (clocked : Clocked observations)
    (order : first < second) (here : observations[first]? = some earlier)
    (there : observations[second]? = some later) :
    earlier.decidedAt ≤ later.heardAt := by
  obtain ⟨inside, rfl⟩ := List.getElem?_eq_some_iff.mp here
  obtain ⟨insideLater, rfl⟩ := List.getElem?_eq_some_iff.mp there
  exact List.pairwise_iff_getElem.mp clocked.between _ _ inside insideLater
    order

theorem Clocked.heardAt_le (clocked : Clocked observations)
    (order : first ≤ second) (here : observations[first]? = some earlier)
    (there : observations[second]? = some later) :
    earlier.heardAt ≤ later.decidedAt := by
  have now := clocked.within later (List.mem_of_getElem? there)
  rcases Nat.eq_or_lt_of_le order with rfl | before
  · rw [here, Option.some.injEq] at there
    exact there ▸ now
  · have heard := clocked.within earlier (List.mem_of_getElem? here)
    have between := clocked.decidedAt_le before here there
    omega

theorem reports_iff (here : observations[place]? = some observation)
    (poll : Poll) :
    Reports observations poll place ↔ observation.poll = poll := by
  rw [Reports, here]
  exact Option.some_inj

theorem exists_of_reports {poll : Poll} (reports : Reports observations poll place) :
    ∃ observation, observations[place]? = some observation ∧
      observation.poll = poll :=
  Option.map_eq_some_iff.mp reports

theorem exists_isLatest {change : Nat} (upTo : change ≤ place)
    (changed : Reports observations .changed change) :
    ∃ latest, change ≤ latest ∧ IsLatest observations place latest := by
  classical
  refine ⟨Nat.findGreatest (Reports observations .changed) place,
    Nat.le_findGreatest upTo changed, Nat.findGreatest_le place,
    Nat.findGreatest_spec upTo changed, fun later upTo after => ?_⟩
  exact Nat.findGreatest_is_greatest after upTo

theorem IsLatest.unique (isLatest : IsLatest observations place first)
    (other : IsLatest observations place second) : first = second := by
  rcases Nat.lt_trichotomy first second with before | same | after
  · exact absurd other.changed (isLatest.last second other.upTo before)
  · exact same
  · exact absurd isLatest.changed (other.last first isLatest.upTo after)

/-! ## Single steps -/

theorem step_of_closed (vigil : Vigil) (closed : observation.poll = .closed) :
    (vigil.step window observation).1.draws = false ∧
      (vigil.step window observation).2 = .ended := by
  obtain ⟨poll, heardAt, decidedAt⟩ := observation
  obtain rfl : poll = .closed := closed
  cases vigil with
  | waiting dirtySince =>
      exact ⟨rfl, rfl⟩
  | ended =>
      exact ⟨rfl, rfl⟩

theorem step_waiting (dirtySince : Option Nat)
    (open_ : observation.poll ≠ .closed) :
    (waiting dirtySince).step window observation =
      let dirty := dirtyAfter dirtySince observation
      let draws := isDue window dirty observation.decidedAt
      (⟨warning? observation.poll, draws⟩,
        .waiting (if draws then none else dirty)) := by
  obtain ⟨poll, heardAt, decidedAt⟩ := observation
  cases poll with
  | closed =>
      exact absurd rfl open_
  | _ =>
      rfl

theorem isDue_some {since now : Nat} (order : since ≤ now) :
    isDue window (some since) now = true ↔ since + window ≤ now := by
  rw [isDue, decide_eq_true_iff]
  omega

/-! ## Runs -/

/-- The vigil when it comes to a place. -/
def stateAt (window : Nat) (observations : List Observation) (place : Nat) :
    Vigil :=
  (start.run window (observations.take place)).2

theorem stateAt_succ (here : observations[place]? = some observation) :
    stateAt window observations (place + 1) =
      ((stateAt window observations place).step window observation).2 := by
  rw [stateAt, stateAt, List.take_add_one, here, Option.toList_some, run_append]
  rfl

theorem getElem?_run (vigil : Vigil) (place : Nat) :
    (vigil.run window observations).1[place]? =
      observations[place]?.map fun observation =>
        ((vigil.run window (observations.take place)).2.step window
          observation).1 := by
  induction observations generalizing vigil place with
  | nil =>
      rfl
  | cons first rest inductionHypothesis =>
      cases place with
      | zero =>
          rfl
      | succ place =>
          exact inductionHypothesis (vigil.step window first).2 place

theorem draws_iff_step (here : observations[place]? = some observation) :
    Draws window observations place ↔
      ((stateAt window observations place).step window
        observation).1.draws = true := by
  rw [Draws, getElem?_run, here]
  exact Option.some_inj

/-! ## The mark of the latest change -/

/-- What the mark of a vigil says of the changes before one place and the
drawings before another: the time of the latest change, if it has not been
drawn since. -/
inductive Marks (window : Nat) (observations : List Observation)
    (heard drawn : Nat) : Option Nat → Prop where
  | clean
      (all : ∀ change < heard, Reports observations .changed change →
        ∃ later < drawn, change ≤ later ∧ Draws window observations later) :
      Marks window observations heard drawn none
  | dirty {latest : Nat} {change : Observation} (before : latest < heard)
      (there : observations[latest]? = some change)
      (changed : change.poll = .changed)
      (last : ∀ later < heard, latest < later →
        ¬ Reports observations .changed later)
      (undrawn : ∀ later < drawn, latest ≤ later →
        ¬ Draws window observations later) :
      Marks window observations heard drawn (some change.heardAt)

namespace Marks

variable {dirtySince : Option Nat}

/-- A change is marked when it is heard. -/
theorem afterHearing (marks : Marks window observations place place dirtySince)
    (here : observations[place]? = some observation) :
    Marks window observations (place + 1) place
      (dirtyAfter dirtySince observation) := by
  by_cases changed : observation.poll = .changed
  · rw [dirtyAfter, changed]
    refine .dirty (Nat.lt_succ_self place) here changed
      (fun later upTo after => ?_) fun later before after => ?_
    · omega
    · omega
  · have same : dirtyAfter dirtySince observation = dirtySince := by
      obtain ⟨poll, heardAt, decidedAt⟩ := observation
      cases poll with
      | changed =>
          exact absurd rfl changed
      | _ =>
          rfl
    have unchanged : ¬ Reports observations .changed place :=
      fun reports => changed ((reports_iff here .changed).mp reports)
    rw [same]
    cases marks with
    | clean all =>
        refine .clean fun change upTo reports => ?_
        rcases Nat.lt_succ_iff_lt_or_eq.mp upTo with before | rfl
        · exact all change before reports
        · exact absurd reports unchanged
    | dirty before there isChange last undrawn =>
        refine .dirty (Nat.lt_succ_of_lt before) there isChange
          (fun later upTo after => ?_) undrawn
        rcases Nat.lt_succ_iff_lt_or_eq.mp upTo with earlier | rfl
        · exact last later earlier after
        · exact unchanged

/-- A mark is taken away by drawing, and by nothing else. -/
theorem afterDeciding {draws : Bool}
    (marks : Marks window observations (place + 1) place dirtySince)
    (decided : Draws window observations place ↔ draws = true) :
    Marks window observations (place + 1) (place + 1)
      (if draws then none else dirtySince) := by
  cases draws with
  | true =>
      refine .clean fun change upTo _ => ?_
      exact ⟨place, Nat.lt_succ_self place, Nat.le_of_lt_succ upTo,
        decided.mpr rfl⟩
  | false =>
      have undrawnHere : ¬ Draws window observations place :=
        fun draws => Bool.false_ne_true (decided.mp draws)
      cases marks with
      | clean all =>
          refine .clean fun change upTo reports => ?_
          obtain ⟨later, before, after, draws⟩ := all change upTo reports
          exact ⟨later, Nat.lt_succ_of_lt before, after, draws⟩
      | dirty before there isChange last undrawn =>
          refine .dirty before there isChange last fun later upTo after => ?_
          rcases Nat.lt_succ_iff_lt_or_eq.mp upTo with earlier | rfl
          · exact undrawn later earlier after
          · exact undrawnHere

/-- The mark tells whether to draw. -/
theorem isDue_iff (clocked : Clocked observations)
    (marks : Marks window observations (place + 1) place dirtySince)
    (here : observations[place]? = some observation) :
    isDue window dirtySince observation.decidedAt = true ↔
      IsPending window observations place ∧
        IsQuiet window observations place := by
  cases marks with
  | clean all =>
      refine iff_of_false Bool.false_ne_true ?_
      rintro ⟨⟨change, upTo, reports, undrawn⟩, -⟩
      obtain ⟨later, before, after, draws⟩ :=
        all change (Nat.lt_succ_of_le upTo) reports
      exact undrawn later before after draws
  | @dirty latest change before there changed last undrawn =>
      have upTo := Nat.le_of_lt_succ before
      have isLatest : IsLatest observations place latest :=
        ⟨upTo, (reports_iff there .changed).mpr changed,
          fun later within => last later (Nat.lt_succ_of_le within)⟩
      rw [isDue_some (clocked.heardAt_le upTo there here)]
      constructor
      · intro passed
        refine ⟨⟨latest, upTo, isLatest.changed, undrawn⟩, ?_⟩
        intro other found now otherLatest foundThere nowHere
        rw [← isLatest.unique otherLatest, there] at foundThere
        rw [here] at nowHere
        cases foundThere
        cases nowHere
        exact passed
      · rintro ⟨-, quiet⟩
        exact quiet latest change observation isLatest there here

end Marks

/-- What a vigil knows when it comes to a place. -/
inductive Knows (window : Nat) (observations : List Observation)
    (place : Nat) : Vigil → Prop where
  | waiting {dirtySince : Option Nat}
      (open_ : ∀ earlier < place, ¬ Reports observations .closed earlier)
      (marks : Marks window observations place place dirtySince) :
      Knows window observations place (.waiting dirtySince)
  | ended {earlier : Nat} (before : earlier < place)
      (closed : Reports observations .closed earlier) :
      Knows window observations place .ended

theorem knows_step (knows : Knows window observations place
      (stateAt window observations place))
    (here : observations[place]? = some observation) :
    Knows window observations (place + 1)
      (stateAt window observations (place + 1)) := by
  rw [stateAt_succ here]
  have decided : Draws window observations place ↔
      ((stateAt window observations place).step window
        observation).1.draws = true := draws_iff_step here
  by_cases closes : observation.poll = .closed
  · rw [(step_of_closed _ closes).2]
    exact .ended (Nat.lt_succ_self place) ((reports_iff here .closed).mpr closes)
  · generalize stateAt window observations place = vigil at knows decided
    cases knows with
    | waiting open_ marks =>
        rw [step_waiting _ closes] at decided ⊢
        refine .waiting (fun earlier upTo => ?_)
          ((marks.afterHearing here).afterDeciding decided)
        rcases Nat.lt_succ_iff_lt_or_eq.mp upTo with inside | rfl
        · exact open_ earlier inside
        · exact fun reports => closes ((reports_iff here .closed).mp reports)
    | ended inside closed =>
        exact .ended (Nat.lt_succ_of_lt inside) closed

theorem knows_stateAt (window : Nat) (observations : List Observation)
    {place : Nat} (inside : place ≤ observations.length) :
    Knows window observations place (stateAt window observations place) := by
  induction place with
  | zero =>
      exact .waiting (fun earlier none_ => absurd none_ (Nat.not_lt_zero _))
        (.clean fun change none_ => absurd none_ (Nat.not_lt_zero _))
  | succ place inductionHypothesis =>
      exact knows_step (inductionHypothesis (Nat.le_of_succ_le inside))
        (List.getElem?_eq_getElem inside)

/-- A vigil draws exactly when a change is pending and it has been quiet for a
window, as long as the watcher has not closed. -/
theorem draws_iff (clocked : Clocked observations)
    (inside : place < observations.length) :
    Draws window observations place ↔
      IsOpen observations place ∧ IsPending window observations place ∧
        IsQuiet window observations place := by
  have here := List.getElem?_eq_getElem inside
  have knows := knows_stateAt window observations inside.le
  rw [draws_iff_step here]
  by_cases closes : observations[place].poll = .closed
  · rw [(step_of_closed _ closes).1]
    refine iff_of_false Bool.false_ne_true fun ⟨open_, _⟩ => ?_
    exact open_ place (Nat.le_refl place) ((reports_iff here .closed).mpr closes)
  · generalize stateAt window observations place = vigil at knows
    cases knows with
    | waiting open_ marks =>
        rw [step_waiting _ closes,
          (marks.afterHearing here).isDue_iff clocked here]
        refine (and_iff_right fun earlier upTo => ?_).symm
        rcases Nat.eq_or_lt_of_le upTo with rfl | before
        · exact fun reports => closes ((reports_iff here .closed).mp reports)
        · exact open_ earlier before
    | ended before closed =>
        refine iff_of_false Bool.false_ne_true fun ⟨open_, _⟩ => ?_
        exact open_ _ before.le closed

/-! ## Consequences -/

/-- Changes from one place to another, each of them heard less than a window
after the one before it. -/
structure IsBurst (window : Nat) (observations : List Observation)
    (first last : Nat) : Prop where
  order : first ≤ last
  begins : Reports observations .changed first
  ends : Reports observations .changed last
  close : ∀ place latest change next, first ≤ place → place < last →
    IsLatest observations place latest →
    observations[latest]? = some change →
    observations[place + 1]? = some next → next.poll = .changed →
    next.heardAt < change.heardAt + window

/-- An observation in which a warning is not heard. -/
def hushed (observation : Observation) : Observation :=
  match observation.poll with
  | .warning _ => { observation with poll := .idle }
  | _ => observation

/-- What drawing at some places and not at others comes to. -/
structure Debounces (window : Nat) (observations : List Observation) :
    Prop where
  /-- It is drawn exactly when a change is pending and it has been quiet for a
  window. -/
  drawn : ∀ place < observations.length,
    Draws window observations place ↔
      IsOpen observations place ∧ IsPending window observations place ∧
        IsQuiet window observations place
  between : ∀ first second, first < second →
    Draws window observations first → Draws window observations second →
    ∃ change, first < change ∧ change ≤ second ∧
      Reports observations .changed change
  /-- A burst is not drawn before its last change, and once after it until
  another change comes. -/
  burst : ∀ first last, IsBurst window observations first last →
    (∀ place, first ≤ place → place < last →
      ¬ Draws window observations place) ∧
    ∀ place other, last ≤ place → place < other →
      Draws window observations place → Draws window observations other →
      ∃ change, last < change ∧ change ≤ other ∧
        Reports observations .changed change
  /-- Once the watcher is heard a window after the latest change, this change
  and those before it have been drawn. -/
  kept : ∀ latest place change now, IsLatest observations place latest →
    IsOpen observations place → observations[latest]? = some change →
    observations[place]? = some now →
    change.heardAt + window ≤ now.heardAt →
    ∃ drawing, latest ≤ drawing ∧ drawing ≤ place ∧
      Draws window observations drawing
  closed : ∀ place later, Reports observations .closed place → place ≤ later →
    ¬ Draws window observations later
  warnings : ∀ place, Draws window (observations.map hushed) place ↔
    Draws window observations place

theorem lt_of_draws (draws : Draws window observations place) :
    place < observations.length := by
  by_contra outside
  rw [Draws, getElem?_run,
    List.getElem?_eq_none (Nat.le_of_not_lt outside)] at draws
  cases draws

theorem exists_change_between (clocked : Clocked observations)
    (order : first < second) (drawsFirst : Draws window observations first)
    (drawsSecond : Draws window observations second) :
    ∃ change, first < change ∧ change ≤ second ∧
      Reports observations .changed change := by
  obtain ⟨-, ⟨change, upTo, changed, undrawn⟩, -⟩ :=
    (draws_iff clocked (lt_of_draws drawsSecond)).mp drawsSecond
  refine ⟨change, ?_, upTo, changed⟩
  by_contra later
  exact undrawn first order (Nat.le_of_not_lt later) drawsFirst

/-- The change after a place, with none in between. -/
theorem exists_next_change {last : Nat} (order : place < last)
    (changed : Reports observations .changed last) :
    ∃ next, place ≤ next ∧ next < last ∧
      Reports observations .changed (next + 1) ∧
      ∀ between ≤ next, place < between →
        ¬ Reports observations .changed between := by
  classical
  have found : ∃ later, place < later ∧ Reports observations .changed later :=
    ⟨last, order, changed⟩
  obtain ⟨after, isChange⟩ := Nat.find_spec found
  have upTo := Nat.find_min' found ⟨order, changed⟩
  have first := fun between => Nat.find_min (m := between) found
  generalize Nat.find found = later at after isChange upTo first
  obtain ⟨next, rfl⟩ := Nat.exists_eq_add_one_of_ne_zero
    (Nat.ne_zero_of_lt after)
  exact ⟨next, Nat.le_of_lt_succ after, upTo, isChange,
    fun between before follows reports =>
      first between (Nat.lt_succ_of_le before) ⟨follows, reports⟩⟩

theorem not_draws_in_burst (clocked : Clocked observations) {last : Nat}
    (burst : IsBurst window observations first last) (from_ : first ≤ place)
    (order : place < last) : ¬ Draws window observations place := by
  intro draws
  have inside := lt_of_draws draws
  obtain ⟨-, -, quiet⟩ := (draws_iff clocked inside).mp draws
  obtain ⟨latest, after, isLatest⟩ := exists_isLatest from_ burst.begins
  obtain ⟨next, upTo, before, changed, none_⟩ :=
    exists_next_change order burst.ends
  -- The latest change at this place is still the latest when the next one
  -- comes.
  have stillLatest : IsLatest observations next latest := by
    refine ⟨isLatest.upTo.trans upTo, isLatest.changed, fun later within => ?_⟩
    intro follows
    rcases Nat.lt_or_ge place later with beyond | here
    · exact none_ later within beyond
    · exact isLatest.last later here follows
  obtain ⟨change, there, -⟩ := exists_of_reports isLatest.changed
  obtain ⟨other, thereNext, isChange⟩ := exists_of_reports changed
  have here := List.getElem?_eq_getElem inside
  have close := burst.close next latest change other (from_.trans upTo) before
    stillLatest there thereNext isChange
  have passed := quiet latest change _ isLatest there here
  have order := clocked.decidedAt_le (Nat.lt_succ_of_le upTo) here thereNext
  omega

theorem exists_drawing (clocked : Clocked observations) {latest : Nat}
    {change now : Observation} (isLatest : IsLatest observations place latest)
    (open_ : IsOpen observations place)
    (there : observations[latest]? = some change)
    (here : observations[place]? = some now)
    (passed : change.heardAt + window ≤ now.heardAt) :
    ∃ drawing, latest ≤ drawing ∧ drawing ≤ place ∧
      Draws window observations drawing := by
  by_contra undrawn
  push Not at undrawn
  refine undrawn place isLatest.upTo (Nat.le_refl place) ?_
  refine (draws_iff clocked (List.getElem?_eq_some_iff.mp here).1).mpr
    ⟨open_, ⟨latest, isLatest.upTo, isLatest.changed, ?_⟩, ?_⟩
  · exact fun between before after => undrawn between after before.le
  · intro other found later otherLatest foundThere laterHere
    rw [← isLatest.unique otherLatest, there] at foundThere
    rw [here] at laterHere
    cases foundThere
    cases laterHere
    exact passed.trans (clocked.within now (List.mem_of_getElem? here))

theorem step_hushed (window : Nat) (vigil : Vigil)
    (observation : Observation) :
    (vigil.step window (hushed observation)).1.draws =
        (vigil.step window observation).1.draws ∧
      (vigil.step window (hushed observation)).2 =
        (vigil.step window observation).2 := by
  obtain ⟨poll, heardAt, decidedAt⟩ := observation
  cases poll with
  | warning message =>
      cases vigil with
      | waiting dirtySince =>
          exact ⟨rfl, rfl⟩
      | ended =>
          exact ⟨rfl, rfl⟩
  | _ =>
      exact ⟨rfl, rfl⟩

theorem run_hushed (vigil : Vigil) (observations : List Observation) :
    (vigil.run window (observations.map hushed)).1.map Reaction.draws =
      (vigil.run window observations).1.map Reaction.draws := by
  induction observations generalizing vigil with
  | nil =>
      rfl
  | cons observation rest inductionHypothesis =>
      obtain ⟨draws, state⟩ := step_hushed window vigil observation
      simp only [List.map_cons, run, draws, state, inductionHypothesis]

theorem draws_hushed (window : Nat) (observations : List Observation)
    (place : Nat) : Draws window (observations.map hushed) place ↔
      Draws window observations place := by
  rw [Draws, Draws, ← List.getElem?_map, run_hushed, List.getElem?_map]

end

theorem debounces {observations : List Observation}
    (clocked : Clocked observations) (window : Nat) :
    Debounces window observations where
  drawn _ inside := draws_iff clocked inside
  between _ _ order := exists_change_between clocked order
  burst first last burst := by
    refine ⟨fun place => not_draws_in_burst clocked burst, ?_⟩
    intro place other upTo order draws drawsOther
    obtain ⟨change, after, before, changed⟩ :=
      exists_change_between clocked order draws drawsOther
    exact ⟨change, upTo.trans_lt after, before, changed⟩
  kept _ _ _ _ := exists_drawing clocked
  closed place later reports upTo draws :=
    ((draws_iff clocked (lt_of_draws draws)).mp draws).1 place upTo reports
  warnings := draws_hushed window observations

end Vigil

/-! ## Sessions -/

namespace Session

/-- A session that takes observations in, each with the console as it is at
that time. -/
def watch (session : Session) : List (Observation × Console) → Session :=
  List.foldl (fun session seen => ((session.observe seen.1).run seen.2).1)
    session

theorem observe_eq (session : Session) (observation : Observation)
    (console : Console) :
    ((session.observe observation).run console).1 =
      { session with
        vigil := (session.vigil.step session.window observation).2
        server :=
          if (session.vigil.step session.window observation).1.draws then
            (session.server.cycle console.disk).2
          else session.server } := by
  unfold observe
  rcases session.vigil.step session.window observation with
    ⟨⟨warning, draws⟩, vigil⟩
  cases warning with
  | none =>
      cases draws with
      | false =>
          rfl
      | true =>
          rfl
  | some message =>
      cases draws with
      | false =>
          rfl
      | true =>
          rfl

/-- The disks at the times when a vigil draws. -/
def drawnDisks (reactions : List Reaction) (disks : List Disk) : List Disk :=
  ((reactions.zip disks).filter (·.1.draws)).map (·.2)

/-- A session goes through a cycle each time its vigil draws, and through no
others. -/
theorem server_watch (session : Session) (seen : List (Observation × Console)) :
    (session.watch seen).server =
      (drawnDisks
        (session.vigil.run session.window (seen.map (·.1))).1
        (seen.map (·.2.disk))).foldl (fun server disk => (server.cycle disk).2)
        session.server := by
  induction seen generalizing session with
  | nil =>
      rfl
  | cons first rest inductionHypothesis =>
      rw [watch, List.foldl_cons, observe_eq]
      refine (inductionHypothesis _).trans ?_
      simp only [List.map_cons, Vigil.run, drawnDisks, List.zip_cons_cons,
        List.filter_cons]
      cases (session.vigil.step session.window first.1).1.draws with
      | false =>
          rfl
      | true =>
          rfl

/-- Whatever the watcher says and however long the window is, a session draws
its keymap when it has changed and has then been quiet for a window, and at no
other time. -/
theorem watch_debounces (window : Nat) {seen : List (Observation × Console)}
    (clocked : Vigil.Clocked (seen.map (·.1))) :
    Vigil.Debounces window (seen.map (·.1)) ∧
      ∀ session : Session,
        (watch { session with window, vigil := .start } seen).server =
          (drawnDisks (Vigil.start.run window (seen.map (·.1))).1
            (seen.map (·.2.disk))).foldl
              (fun server disk => (server.cycle disk).2) session.server :=
  ⟨Vigil.debounces clocked window, fun _ => server_watch _ seen⟩

def bareConsole : Console := .new ⟨[], []⟩ []

/-- A burst of two changes with a warning in it, which is drawn when another
warning comes, and a change after which the watcher closes. -/
def interruptedBurst : List (Observation × Console) :=
  [(⟨.changed, 0, 5⟩, bareConsole),
    (⟨.warning "queue full", 60, 60⟩, bareConsole),
    (⟨.changed, 99, 99⟩, bareConsole),
    (⟨.idle, 150, 150⟩, bareConsole),
    (⟨.warning "queue full", 199, 199⟩, bareConsole),
    (⟨.idle, 300, 300⟩, bareConsole),
    (⟨.changed, 310, 310⟩, bareConsole),
    (⟨.closed, 500, 500⟩, bareConsole)]

theorem watch_debounces_interruptedBurst :
    Vigil.Clocked (interruptedBurst.map (·.1)) ∧
      Vigil.Debounces 100 (interruptedBurst.map (·.1)) ∧
      ∀ session : Session,
        (watch { session with window := 100, vigil := .start }
          interruptedBurst).server =
            (session.server.cycle bareConsole.disk).2 := by
  have clocked : Vigil.Clocked (interruptedBurst.map (·.1)) :=
    ⟨by decide, by decide⟩
  have once : drawnDisks
      (Vigil.start.run 100 (interruptedBurst.map (·.1))).1
      (interruptedBurst.map (·.2.disk)) = [bareConsole.disk] := rfl
  obtain ⟨debounces, servers⟩ := watch_debounces 100 clocked
  refine ⟨clocked, debounces, fun session => ?_⟩
  rw [servers, once]
  rfl

end Session

end KeymapViewer.Preview
