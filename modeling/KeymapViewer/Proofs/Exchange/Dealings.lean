import KeymapViewer.Proofs.Client.Entry

/-!
Dealings of a host with one guest. Strings are issued, given back in any order
and taken over, while the guest answers and fails as it likes. The ledger
always holds the blocks of the strings in hand, and its counts add up.
-/

namespace KeymapViewer

open Text

namespace Ledger

/-- What a ledger has about a string. -/
def entry (string : GuestString) : UInt32 × UInt32 :=
  (string.pointer, string.capacity)

theorem pointers_of_live {ledger : Ledger} {strings : List GuestString}
    (live : ledger.live = strings.map entry) :
    ledger.pointers = strings.map (·.pointer) := by
  rw [pointers, live, List.map_map]
  rfl

/-- When no pointer is in it twice, a ledger finds what it has. -/
theorem capacity?_eq_some_iff {ledger : Ledger}
    (distinct : ledger.pointers.Nodup) (pointer capacity : UInt32) :
    ledger.capacity? pointer = some capacity ↔
      (pointer, capacity) ∈ ledger.live := by
  constructor
  · intro found
    obtain ⟨before, after, split, -⟩ := List.lookup_eq_some_iff.mp found
    rw [split]
    exact List.mem_append_right before (List.mem_cons_self ..)
  · intro member
    obtain ⟨before, after, split⟩ := List.append_of_mem member
    rw [pointers, split, List.map_append] at distinct
    have apart := (List.nodup_append.mp distinct).2.2
    refine List.lookup_eq_some_iff.mpr ⟨before, after, split, ?_⟩
    intro other earlier
    refine bne_iff_ne.mpr fun same => ?_
    exact apart other.1 (List.mem_map_of_mem earlier) pointer (by simp)
      same.symm

/-- A ledger forgets one string when it forgets its pointer. -/
theorem live_forget {ledger : Ledger} {strings : List GuestString}
    (live : ledger.live = strings.map entry)
    (distinct : (strings.map (·.pointer)).Nodup) {place : Nat}
    {string : GuestString} (there : strings[place]? = some string) :
    (ledger.forget string.pointer).live =
      (strings.eraseIdx place).map entry := by
  unfold forget
  rw [live]
  simp only
  clear live
  induction strings generalizing place with
  | nil =>
      cases there
  | cons first rest inductionHypothesis =>
      obtain ⟨fresh, distinctRest⟩ := List.nodup_cons.mp distinct
      cases place with
      | zero =>
          injection there with same
          subst same
          have kept : ∀ found ∈ rest.map entry,
              (found.1 != first.pointer) = true := by
            intro found member
            obtain ⟨other, otherMember, rfl⟩ := List.mem_map.mp member
            refine bne_iff_ne.mpr fun same => fresh ?_
            exact List.mem_map.mpr ⟨other, otherMember, same⟩
          simp [entry, List.filter_eq_self.mpr kept]
      | succ place =>
          have member : string ∈ rest := List.mem_of_getElem? there
          have differs : first.pointer ≠ string.pointer := fun same =>
            fresh (List.mem_map.mpr ⟨string, member, same.symm⟩)
          have others := inductionHypothesis distinctRest there
          simpa [entry, differs] using others

end Ledger

namespace Exchange

/-- What a host does with the strings of a guest. A string that goes back is
named by its place among those in hand. -/
inductive Transfer where
  | write (text : String) (terminator : Terminator)
  | release (place : Nat)
  | read (pointer length : UInt32)
  | take (pointer : UInt32)
  deriving DecidableEq, Repr

/-- A ledger and its guest, and what has come of the transfers so far. -/
structure Dealings (σ : Type) where
  ledger : Ledger
  guest : σ
  /-- The strings that were issued and have not been given back. -/
  inHand : List GuestString
  /-- How many strings were given back without the guest having freed them. -/
  unfreed : Nat

namespace Dealings

def new {σ : Type} (guest : σ) : Dealings σ := ⟨.empty, guest, [], 0⟩

section

variable {σ : Type} [Guest σ]

/-- Carries out a transfer. There is none from a place without a string. -/
def step (dealings : Dealings σ) : Transfer → Dealings σ
  | .write text terminator =>
    match (writeString text terminator).perform dealings.ledger
      dealings.guest with
    | (.ok string, ledger, guest) =>
      { dealings with ledger, guest, inHand := string :: dealings.inHand }
    | (.error _, ledger, guest) => { dealings with ledger, guest }
  | .release place =>
    match dealings.inHand[place]? with
    | none => dealings
    | some string =>
      let inHand := dealings.inHand.eraseIdx place
      match (release string).perform dealings.ledger dealings.guest with
      | (.ok (), ledger, guest) => { dealings with ledger, guest, inHand }
      | (.error _, ledger, guest) =>
        { ledger, guest, inHand, unfreed := dealings.unfreed + 1 }
  | .read pointer length =>
    let (_, ledger, guest) :=
      (readString pointer length).perform dealings.ledger dealings.guest
    { dealings with ledger, guest }
  | .take pointer =>
    let (_, ledger, guest) :=
      (takeCString pointer).perform dealings.ledger dealings.guest
    { dealings with ledger, guest }

def run (dealings : Dealings σ) (transfers : List Transfer) : Dealings σ :=
  transfers.foldl step dealings

/-! ## One transfer -/

/-- The ledger has the strings in hand, the one issued last first, and every
string that was ever issued is counted once. -/
structure Matches (dealings : Dealings σ) : Prop where
  live : dealings.ledger.live = dealings.inHand.map Ledger.entry
  distinct : (dealings.inHand.map (·.pointer)).Nodup
  written : dealings.ledger.written =
    dealings.inHand.length + dealings.ledger.released + dealings.unfreed

omit [Guest σ] in
theorem matches_new (guest : σ) : (new guest).Matches :=
  ⟨rfl, .nil, rfl⟩

theorem ledger_of_writeString_error {text : String}
    {terminator : Terminator} {ledger after : Ledger} {guest left : σ}
    {fault : Fault}
    (failed : (writeString text terminator).perform ledger guest =
      (.error fault, after, left)) :
    after = ledger := by
  rw [perform_writeString] at failed
  split at failed
  · cases failed
    rfl
  rcases asked : (Guest.alloc (blockSize text)).run.run guest with
    ⟨refusal | pointer, allocated⟩
  · simp only [asked] at failed
    cases failed
    rfl
  simp only [asked] at failed
  split at failed
  · cases failed
    rfl
  rcases copied :
      (Guest.writeText pointer text terminator).run.run allocated with
    ⟨spoiled | length, filled⟩
  · rcases returned :
        (Guest.dealloc pointer (blockSize text)).run.run filled with
      ⟨second | freed, last⟩
    all_goals
      simp only [copied, returned] at failed
      cases failed
      rfl
  · simp only [copied] at failed
    cases failed

theorem ledger_of_takeCString {pointer : UInt32} {ledger after : Ledger}
    {guest left : σ} {result : Except Fault String}
    (taken : (takeCString pointer).perform ledger guest =
      (result, after, left)) :
    after = { ledger with
      consumed := ledger.consumed + if result.toBool then 1 else 0 } := by
  rw [perform_takeCString] at taken
  split at taken
  · cases taken
    rfl
  cases text : (Guest.memory guest).readCText pointer with
  | error reason =>
      simp only [text] at taken
      cases taken
      rfl
  | ok text_ =>
      rcases freed : (Guest.deallocText pointer).run.run guest with
        ⟨fault | done, last⟩
      all_goals
        simp only [text, freed] at taken
        cases taken
        rfl

theorem ledger_readString (pointer length : UInt32) (ledger : Ledger)
    (guest : σ) :
    ((readString pointer length).perform ledger guest).2.1 = ledger := by
  rw [readString, perform_call]

namespace Matches

variable {dealings : Dealings σ}

omit [Guest σ] in
theorem known (matched : dealings.Matches) {string : GuestString}
    (inHand : string ∈ dealings.inHand) :
    dealings.ledger.capacity? string.pointer = some string.capacity := by
  have distinct := matched.distinct
  rw [← Ledger.pointers_of_live matched.live] at distinct
  refine (Ledger.capacity?_eq_some_iff distinct _ _).mpr ?_
  rw [matched.live]
  exact List.mem_map.mpr ⟨string, inHand, rfl⟩

omit [Guest σ] in
/-- The guest does not matter, nor does how many texts it has handed over. -/
theorem withLedger (matched : dealings.Matches) {after : Ledger}
    (live : after.live = dealings.ledger.live)
    (written : after.written = dealings.ledger.written)
    (released : after.released = dealings.ledger.released) (guest : σ) :
    Matches { dealings with ledger := after, guest } :=
  ⟨live.trans matched.live, matched.distinct, by
    simp only [written, released, matched.written]⟩

theorem write (matched : dealings.Matches) (text : String)
    (terminator : Terminator) :
    (dealings.step (.write text terminator)).Matches := by
  rcases performed : (writeString text terminator).perform dealings.ledger
    dealings.guest with ⟨fault | string, after, left⟩
  · obtain rfl := ledger_of_writeString_error performed
    simp only [step, performed]
    exact matched.withLedger rfl rfl rfl left
  · obtain ⟨rfl, unused, -⟩ := Client.writeString_eq_ok performed
    have fresh : string.pointer ∉ dealings.inHand.map (·.pointer) := by
      rw [← Ledger.pointers_of_live matched.live,
        ← Ledger.holds_iff_mem_pointers, unused]
      decide
    simp only [step, performed]
    refine ⟨?_, List.nodup_cons.mpr ⟨fresh, matched.distinct⟩, ?_⟩
    · rw [List.map_cons, ← matched.live]
      rfl
    · have written := matched.written
      simp only [Ledger.record, List.length_cons]
      omega

theorem release (matched : dealings.Matches) (place : Nat) :
    (dealings.step (.release place)).Matches := by
  rcases there : dealings.inHand[place]? with _ | string
  · simp only [step, there]
    exact matched
  have live := Ledger.live_forget matched.live matched.distinct there
  have distinct : ((dealings.inHand.eraseIdx place).map (·.pointer)).Nodup :=
    matched.distinct.sublist ((List.eraseIdx_sublist ..).map _)
  have inside : place < dealings.inHand.length :=
    (List.getElem?_eq_some_iff.mp there).1
  have length := List.length_eraseIdx_of_lt inside
  have written := matched.written
  have known := matched.known (List.mem_of_getElem? there)
  have performed := perform_release string dealings.ledger dealings.guest
  simp only [known, ne_eq, not_true_eq_false, ↓reduceIte] at performed
  rcases freed : (Guest.dealloc string.pointer string.capacity).run.run
    dealings.guest with ⟨fault | done, left⟩
  · simp only [step, there, performed, freed]
    refine ⟨live, distinct, ?_⟩
    simp only [Ledger.forget, length]
    omega
  · simp only [step, there, performed, freed]
    refine ⟨live, distinct, ?_⟩
    simp only [Ledger.forget, length]
    omega

theorem step (matched : dealings.Matches) (transfer : Transfer) :
    (dealings.step transfer).Matches := by
  cases transfer with
  | write text terminator =>
      exact matched.write text terminator
  | release place =>
      exact matched.release place
  | read pointer length =>
      have same := ledger_readString pointer length dealings.ledger
        dealings.guest
      exact matched.withLedger (congrArg Ledger.live same)
        (congrArg Ledger.written same) (congrArg Ledger.released same) _
  | take pointer =>
      rcases taken : (takeCString pointer).perform dealings.ledger
        dealings.guest with ⟨result, after, left⟩
      have same := ledger_of_takeCString taken
      simp only [Dealings.step, taken]
      exact matched.withLedger (by rw [same]) (by rw [same]) (by rw [same])
        left

end Matches

/-! ## Runs -/

theorem matches_run {dealings : Dealings σ} (matched : dealings.Matches)
    (transfers : List Transfer) : (dealings.run transfers).Matches := by
  induction transfers generalizing dealings with
  | nil =>
      exact matched
  | cons transfer rest inductionHypothesis =>
      exact inductionHypothesis (matched.step transfer)

/-- What can be relied on between transfers. The ledger and its counts are
those of the strings in hand, each of these can go back, and a transfer that
fails has changed nothing but the guest. -/
structure Balances (dealings : Dealings σ) : Prop where
  ledger : ∀ pointer capacity,
    dealings.ledger.capacity? pointer = some capacity ↔
      ∃ string ∈ dealings.inHand,
        string.pointer = pointer ∧ string.capacity = capacity
  distinct : (dealings.inHand.map (·.pointer)).Nodup
  outstanding : dealings.ledger.outstanding = dealings.inHand.length
  written : dealings.ledger.written =
    dealings.ledger.outstanding + dealings.ledger.released +
      dealings.unfreed
  /-- Giving a string back comes out as the guest's own call does. -/
  release : ∀ string ∈ dealings.inHand,
    ((release string).perform dealings.ledger dealings.guest).1 =
      ((Guest.dealloc string.pointer string.capacity).run.run
        dealings.guest).1
  refusedWrite : ∀ text terminator fault after left,
    (writeString text terminator).perform dealings.ledger dealings.guest =
      (.error fault, after, left) → after = dealings.ledger
  refusedTake : ∀ pointer fault after left,
    (takeCString pointer).perform dealings.ledger dealings.guest =
      (.error fault, after, left) → after = dealings.ledger

/-- Whatever pointers the guest hands out and whichever of its calls fail, the
books of the host are right after any transfers. -/
theorem run_balances (guest : σ) (transfers : List Transfer) :
    ((new guest).run transfers).Balances := by
  have matched := matches_run (matches_new guest) transfers
  generalize (new guest).run transfers = dealings at matched
  have pointers := Ledger.pointers_of_live matched.live
  have outstanding : dealings.ledger.outstanding = dealings.inHand.length := by
    rw [Ledger.outstanding, matched.live, List.length_map]
  refine
    { ledger := fun pointer capacity => ?_
      distinct := matched.distinct
      outstanding
      written := by rw [outstanding, matched.written]
      release := fun string inHand => ?_
      refusedWrite := fun _ _ _ _ _ => ledger_of_writeString_error
      refusedTake := fun _ _ _ _ => ledger_of_takeCString }
  · rw [Ledger.capacity?_eq_some_iff (pointers ▸ matched.distinct),
      matched.live, List.mem_map]
    simp only [Ledger.entry, Prod.mk.injEq]
  · obtain ⟨after, performed, -⟩ := Client.perform_release_of_known
      (matched.known inHand) dealings.guest
    rw [performed]

end

end Dealings

end Exchange

end KeymapViewer
