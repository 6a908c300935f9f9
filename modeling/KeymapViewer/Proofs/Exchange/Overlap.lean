import KeymapViewer.Proofs.Exchange.RoundTrip

/-!
Blocks that overlap. A ledger turns a block down if one in use starts where it
does, and only then. The blocks in use stay apart as long as the guest gives
out none that reaches into another, and a text stays readable as long as no
other one is put over its bytes.
-/

namespace KeymapViewer

open Text Memory

namespace Ledger

/-- The places of a block. -/
def block (entry : UInt32 × UInt32) : Set Nat :=
  span entry.1.toNat entry.2.toNat

/-- No two blocks in use have a place in common. -/
def Apart (ledger : Ledger) : Prop :=
  (ledger.live.map block).Pairwise Disjoint

theorem Apart.of_sublist {before after : Ledger} (apart : before.Apart)
    (fewer : after.live.Sublist before.live) : after.Apart :=
  List.Pairwise.sublist (fewer.map block) apart

theorem apart_record {ledger : Ledger} (apart : ledger.Apart)
    (pointer capacity : UInt32) :
    (ledger.record pointer capacity).Apart ↔
      ∀ entry ∈ ledger.live, Disjoint (block (pointer, capacity))
        (block entry) := by
  unfold Apart at apart ⊢
  unfold record
  rw [List.map_cons, List.pairwise_cons, and_iff_left apart]
  exact List.forall_mem_map

end Ledger

/-- Guests that change no byte of their own accord. Their memory may grow in
any call, and calls may fail and give out any pointers. -/
structure Guest.IsQuiet (σ : Type) [Guest σ] : Prop where
  lawful : LawfulGuest σ
  store_error (pointer : UInt32) (bytes : Bytes) (guest after : σ)
    (fault : Fault) :
    (Guest.store pointer bytes).run.run guest = (.error fault, after) →
      SameIn Set.univ (Guest.memory guest) (Guest.memory after)
  alloc (size : UInt32) (guest : σ) :
    SameIn Set.univ (Guest.memory guest)
      (Guest.memory ((Guest.alloc size).run.run guest).2)
  dealloc (pointer size : UInt32) (guest : σ) :
    SameIn Set.univ (Guest.memory guest)
      (Guest.memory ((Guest.dealloc pointer size).run.run guest).2)
  deallocText (pointer : UInt32) (guest : σ) :
    SameIn Set.univ (Guest.memory guest)
      (Guest.memory ((Guest.deallocText pointer).run.run guest).2)

namespace Exchange

section

variable {σ : Type} [Guest σ]

/-! ## What a ledger turns down -/

theorem writeString_of_held {text : String} {terminator : Terminator}
    {ledger : Ledger} {guest allocated : σ} {pointer : UInt32}
    (short : byteLength text < wordCount 32)
    (asked : (Guest.alloc (blockSize text)).run.run guest =
      (.ok pointer, allocated))
    (held : pointer ∈ ledger.pointers) :
    (writeString text terminator).perform ledger guest =
      (.error (Ledger.Violation.stillInUse pointer).fault, ledger,
        allocated) := by
  rw [← Ledger.holds_iff_mem_pointers] at held
  simp only [perform_writeString, if_neg short.not_ge, asked, if_pos held]

theorem writeString_of_fresh {text : String} {terminator : Terminator}
    {ledger : Ledger} {guest allocated left : σ} {pointer length : UInt32}
    (short : byteLength text < wordCount 32)
    (asked : (Guest.alloc (blockSize text)).run.run guest =
      (.ok pointer, allocated))
    (fresh : pointer ∉ ledger.pointers)
    (copied : (Guest.writeText pointer text terminator).run.run allocated =
      (.ok length, left)) :
    (writeString text terminator).perform ledger guest =
      (.ok ⟨pointer, (byteLength text).toUInt32, blockSize text, terminator⟩,
        ledger.record pointer (blockSize text), left) := by
  rw [← Ledger.holds_iff_mem_pointers] at fresh
  simp only [perform_writeString, if_neg short.not_ge, asked, if_neg fresh,
    copied]

/-! ## What a step leaves in memory -/

section Quiet

variable (quiet : Guest.IsQuiet σ) {places : Set Nat}

include quiet

/-- A text changes no byte but its own, and none when it does not come to
lie in memory. -/
theorem sameIn_writeText {pointer : UInt32} {text : String}
    {terminator : Terminator} {guest left : σ} {result : Except Fault UInt32}
    (copied : (Guest.writeText pointer text terminator).run.run guest =
      (result, left))
    (apart : ∀ length, result = .ok length →
      Disjoint (span pointer.toNat (terminator.encode text).length) places) :
    SameIn places (Guest.memory guest) (Guest.memory left) := by
  rw [run_writeText] at copied
  split at copied
  · cases copied
    exact .refl places _
  cases checked : (Guest.memory guest).checkSpan pointer
      (terminator.encode text).length.toUInt32 with
  | error reason =>
      rw [checked] at copied
      cases copied
      exact .refl places _
  | ok inside =>
      rw [checked] at copied
      rcases stored : (Guest.store pointer (terminator.encode text)).run.run
        guest with ⟨fault | done, after⟩
      · rw [stored] at copied
        cases copied
        exact (quiet.store_error _ _ _ _ _ stored).mono
          (Set.subset_univ places)
      · rw [stored] at copied
        cases copied
        rw [quiet.lawful.memory_store stored]
        exact .write (apart _ rfl)

theorem sameIn_writeString {text : String} {terminator : Terminator}
    {ledger after : Ledger} {guest left : σ}
    {result : Except Fault GuestString}
    (written : (writeString text terminator).perform ledger guest =
      (result, after, left))
    (apart : ∀ string, result = .ok string →
      Disjoint (span string.pointer.toNat (terminator.encode text).length)
        places) :
    SameIn places (Guest.memory guest) (Guest.memory left) := by
  rw [perform_writeString] at written
  split at written
  · cases written
    exact .refl places _
  have grown := (quiet.alloc (blockSize text) guest).mono
    (Set.subset_univ places)
  rcases asked : (Guest.alloc (blockSize text)).run.run guest with
    ⟨fault | pointer, allocated⟩
  · rw [asked] at written grown
    cases written
    exact grown
  rw [asked] at written grown
  simp only at written
  split at written
  · cases written
    exact grown
  rcases copied :
      (Guest.writeText pointer text terminator).run.run allocated with
    ⟨fault | length, filled⟩
  · have same : SameIn places (Guest.memory allocated)
        (Guest.memory filled) := by
      apply sameIn_writeText quiet copied
      intro length spoiled
      cases spoiled
    have returned := (quiet.dealloc pointer (blockSize text) filled).mono
      (Set.subset_univ places)
    rcases freed :
        (Guest.dealloc pointer (blockSize text)).run.run filled with
      ⟨second | done, last⟩
    all_goals
      simp only [copied, freed] at written returned
      cases written
      exact grown.trans (same.trans returned)
  · simp only [copied] at written
    cases written
    apply grown.trans
    apply sameIn_writeText quiet copied
    intro _ _
    exact apart _ rfl

theorem sameIn_release (string : GuestString) (ledger : Ledger) (guest : σ) :
    SameIn places (Guest.memory guest)
      (Guest.memory ((release string).perform ledger guest).2.2) := by
  have returned := (quiet.dealloc string.pointer string.capacity guest).mono
    (Set.subset_univ places)
  cases refused : ledger.refusal? string with
  | some violation =>
      rw [perform_release_of_refusal refused]
      exact .refl places _
  | none =>
      have known := Ledger.known_of_refusal?_eq_none refused
      rw [perform_release, known]
      simp only [ne_eq, not_true_eq_false, ↓reduceIte]
      rcases freed : (Guest.dealloc string.pointer string.capacity).run.run
        guest with ⟨fault | done, left⟩
      all_goals
        rw [freed] at returned
        exact returned

theorem sameIn_takeCString (pointer : UInt32) (ledger : Ledger) (guest : σ) :
    SameIn places (Guest.memory guest)
      (Guest.memory ((takeCString pointer).perform ledger guest).2.2) := by
  have returned := (quiet.deallocText pointer guest).mono
    (Set.subset_univ places)
  rw [perform_takeCString]
  split
  · exact .refl places _
  cases (Guest.memory guest).readCText pointer with
  | error reason =>
      exact .refl places _
  | ok text =>
      rcases freed : (Guest.deallocText pointer).run.run guest with
        ⟨fault | done, left⟩
      all_goals
        rw [freed] at returned
        exact returned

end Quiet

namespace Dealings

/-- Something holds of each transfer and of the dealings that it meets. -/
def Throughout (holds : Dealings σ → Transfer → Prop)
    (dealings : Dealings σ) : List Transfer → Prop
  | [] => True
  | transfer :: later =>
    holds dealings transfer ∧
      (dealings.step transfer).Throughout holds later

/-- If the transfer issues a string, its block lies apart from the blocks in
use. -/
def PlacesApart (dealings : Dealings σ) : Transfer → Prop
  | .write text terminator =>
    ∀ string, ((writeString text terminator).perform dealings.ledger
        dealings.guest).1 = .ok string →
      ∀ entry ∈ dealings.ledger.live,
        Disjoint (Ledger.block (Ledger.entry string)) (Ledger.block entry)
  | _ => True

/-- If the transfer issues a string, the bytes of its text lie elsewhere. -/
def Spares (places : Set Nat) (dealings : Dealings σ) : Transfer → Prop
  | .write text terminator =>
    ∀ string, ((writeString text terminator).perform dealings.ledger
        dealings.guest).1 = .ok string →
      Disjoint (span string.pointer.toNat (terminator.encode text).length)
        places
  | _ => True

/-! ## One transfer -/

section Step

variable {dealings : Dealings σ}

theorem inHand_release (place : Nat) :
    (dealings.step (.release place)).inHand =
      dealings.inHand.eraseIdx place := by
  rcases there : dealings.inHand[place]? with _ | string
  · simp only [step, there]
    rw [List.eraseIdx_of_length_le (List.getElem?_eq_none_iff.mp there)]
  · rcases performed : (release string).perform dealings.ledger
      dealings.guest with ⟨fault | done, after, left⟩
    all_goals simp only [step, there, performed]

/-- A ledger has no more blocks when no more strings are in hand. -/
theorem Matches.apart_step (matched : dealings.Matches)
    (apart : dealings.ledger.Apart) {transfer : Transfer}
    (fewer : (dealings.step transfer).inHand.Sublist dealings.inHand) :
    (dealings.step transfer).ledger.Apart := by
  apply apart.of_sublist
  rw [(matched.step transfer).live, matched.live]
  exact fewer.map Ledger.entry

theorem apart_step_iff (matched : dealings.Matches)
    (apart : dealings.ledger.Apart) (transfer : Transfer) :
    (dealings.step transfer).ledger.Apart ↔ dealings.PlacesApart transfer := by
  cases transfer with
  | write text terminator =>
      rcases performed : (writeString text terminator).perform
        dealings.ledger dealings.guest with ⟨fault | string, after, left⟩
      · have same := ledger_of_writeString_error performed
        simp only [step, performed, same, PlacesApart]
        refine iff_of_true apart ?_
        intro string spoiled
        cases spoiled
      · obtain ⟨rfl, -⟩ := Client.writeString_eq_ok performed
        simp only [step, performed, PlacesApart, Except.ok.injEq,
          forall_eq']
        exact Ledger.apart_record apart string.pointer string.capacity
  | release place =>
      apply iff_of_true _ trivial
      apply matched.apart_step apart
      rw [inHand_release]
      exact List.eraseIdx_sublist ..
  | read pointer length =>
      exact iff_of_true (matched.apart_step apart (.refl _)) trivial
  | take pointer =>
      exact iff_of_true (matched.apart_step apart (.refl _)) trivial

theorem sameIn_step (quiet : Guest.IsQuiet σ) {places : Set Nat}
    {transfer : Transfer} (spared : dealings.Spares places transfer) :
    SameIn places (Guest.memory dealings.guest)
      (Guest.memory (dealings.step transfer).guest) := by
  cases transfer with
  | write text terminator =>
      rcases performed : (writeString text terminator).perform
        dealings.ledger dealings.guest with ⟨result, after, left⟩
      simp only [Spares, performed] at spared
      have same := sameIn_writeString quiet performed spared
      cases result with
      | error fault =>
          simp only [step, performed]
          exact same
      | ok string =>
          simp only [step, performed]
          exact same
  | release place =>
      rcases there : dealings.inHand[place]? with _ | string
      · simp only [step, there]
        exact .refl places _
      have same : SameIn places _ _ :=
        sameIn_release quiet string dealings.ledger dealings.guest
      rcases performed : (release string).perform dealings.ledger
        dealings.guest with ⟨fault | done, after, left⟩
      all_goals
        rw [performed] at same
        simp only [step, there, performed]
        exact same
  | read pointer length =>
      have unchanged : (dealings.step (.read pointer length)).guest =
          dealings.guest := by
        simp only [step, readString, perform_call, run_inspect]
      rw [unchanged]
      exact .refl places _
  | take pointer =>
      exact sameIn_takeCString quiet pointer dealings.ledger dealings.guest

end Step

/-! ## Runs -/

section Run

variable {dealings : Dealings σ}

theorem run_append (dealings : Dealings σ) (first second : List Transfer) :
    dealings.run (first ++ second) = (dealings.run first).run second :=
  List.foldl_append

theorem run_apart_iff (matched : dealings.Matches)
    (apart : dealings.ledger.Apart) (transfers : List Transfer) :
    (∀ earlier, earlier <+: transfers → (dealings.run earlier).ledger.Apart) ↔
      dealings.Throughout PlacesApart transfers := by
  induction transfers generalizing dealings with
  | nil =>
      apply iff_of_true _ trivial
      intro earlier before
      rw [List.prefix_nil.mp before]
      exact apart
  | cons transfer later inductionHypothesis =>
      have here := apart_step_iff matched apart transfer
      constructor
      · intro always
        have next : (dealings.step transfer).ledger.Apart :=
          always [transfer] (List.prefix_append [transfer] later)
        refine ⟨here.mp next, ?_⟩
        apply (inductionHypothesis (matched.step transfer) next).mp
        intro earlier before
        exact always (transfer :: earlier)
          (List.cons_prefix_cons.mpr ⟨rfl, before⟩)
      · rintro ⟨placed, rest⟩ earlier before
        have next := here.mpr placed
        rcases List.prefix_cons_iff.mp before with rfl | ⟨others, rfl, shorter⟩
        · exact apart
        · exact (inductionHypothesis (matched.step transfer) next).mpr rest
            others shorter

theorem sameIn_run (quiet : Guest.IsQuiet σ) {places : Set Nat}
    {transfers : List Transfer}
    (spared : dealings.Throughout (Spares places) transfers) :
    SameIn places (Guest.memory dealings.guest)
      (Guest.memory (dealings.run transfers).guest) := by
  induction transfers generalizing dealings with
  | nil =>
      exact .refl places _
  | cons transfer later inductionHypothesis =>
      obtain ⟨here, rest⟩ := spared
      exact (sameIn_step quiet here).trans (inductionHypothesis rest)

end Run

/-- What becomes of the memory that strings take up in a run. -/
structure KeepsTexts (guest : σ) (transfers : List Transfer) : Prop where
  starts : ((new guest).run transfers).ledger.pointers.Nodup
  /-- A pointer at which a block in use starts is turned down. -/
  refused : ∀ text terminator pointer allocated,
    byteLength text < wordCount 32 →
      (Guest.alloc (blockSize text)).run.run
          ((new guest).run transfers).guest = (.ok pointer, allocated) →
        pointer ∈ ((new guest).run transfers).ledger.pointers →
          (writeString text terminator).perform
              ((new guest).run transfers).ledger
              ((new guest).run transfers).guest =
            (.error (Ledger.Violation.stillInUse pointer).fault,
              ((new guest).run transfers).ledger, allocated)
  /-- Any other pointer is accepted, also one in the midst of a block. -/
  accepted : ∀ text terminator pointer length allocated left,
    byteLength text < wordCount 32 →
      (Guest.alloc (blockSize text)).run.run
          ((new guest).run transfers).guest = (.ok pointer, allocated) →
        pointer ∉ ((new guest).run transfers).ledger.pointers →
          (Guest.writeText pointer text terminator).run.run allocated =
              (.ok length, left) →
            (writeString text terminator).perform
                ((new guest).run transfers).ledger
                ((new guest).run transfers).guest =
              (.ok ⟨pointer, (byteLength text).toUInt32, blockSize text,
                  terminator⟩,
                ((new guest).run transfers).ledger.record pointer
                  (blockSize text), left)
  apart_iff :
    (∀ earlier, earlier <+: transfers →
      ((new guest).run earlier).ledger.Apart) ↔
        (new guest).Throughout PlacesApart transfers
  readBack : Guest.IsQuiet σ →
    ∀ earlier text terminator later string after left,
      transfers = earlier ++ .write text terminator :: later →
        (terminator.encode text).length < wordCount 32 →
          (writeString text terminator).perform
              ((new guest).run earlier).ledger
              ((new guest).run earlier).guest = (.ok string, after, left) →
            ((new guest).run (earlier ++ [.write text terminator])).Throughout
                (Spares (span string.pointer.toNat string.length.toNat))
                later →
              (readString string.pointer string.length).perform
                  ((new guest).run transfers).ledger
                  ((new guest).run transfers).guest =
                (.ok text, ((new guest).run transfers).ledger,
                  ((new guest).run transfers).guest)

/-- Blocks that start elsewhere are accepted, so strings stay apart, and keep
their texts, only if the guest sees to it. -/
theorem run_keepsTexts (guest : σ) (transfers : List Transfer) :
    KeepsTexts guest transfers := by
  have matched := matches_run (matches_new guest) transfers
  refine
    { starts := ?_
      refused := fun _ _ _ _ => writeString_of_held
      accepted := fun _ _ _ _ _ _ => writeString_of_fresh
      apart_iff := run_apart_iff (matches_new guest) .nil transfers
      readBack := ?_ }
  · rw [Ledger.pointers_of_live matched.live]
    exact matched.distinct
  · intro quiet earlier text terminator later string after left split fits
      written spared
    have := quiet.lawful
    have read := readText_writeString fits written
    have issued : ((new guest).run (earlier ++ [.write text terminator])).guest =
        left := by
      rw [run_append]
      simp only [run, List.foldl_cons, List.foldl_nil, step] at written ⊢
      rw [written]
    have kept := sameIn_run quiet spared
    rw [issued, ← run_append, List.append_assoc, List.singleton_append,
      ← split] at kept
    rw [readString, perform_call, run_inspect, kept.readText read]
    rfl

end Dealings

end

/-! ## Two strings in one place -/

theorem Dispenser.isQuiet : Guest.IsQuiet Dispenser where
  lawful := inferInstance
  store_error _ _ _ _ _ stored := nomatch stored
  alloc size dispenser := by
    obtain ⟨memory, pointers⟩ := dispenser
    cases pointers with
    | nil =>
        exact .refl _ memory
    | cons pointer rest =>
        exact .refl _ memory
  dealloc _ _ dispenser := .refl _ dispenser.memory
  deallocText _ dispenser := .refl _ dispenser.memory

namespace Dealings

/-- A longer text, and then a shorter one. -/
def greetings : List Transfer := [.write "hello" .nul, .write "hi" .nul]

def spaced : Dispenser := ⟨.new 256 0, [64, 128]⟩

/-- The block that is given out second lies within the first one. -/
def nested : Dispenser := ⟨.new 256 0, [64, 66]⟩

theorem run_keepsTexts_spaced :
    ((new spaced).run [.write "hello" .nul]).Throughout (Spares (span 64 5))
        [.write "hi" .nul] ∧
      ((readString 64 5).perform ((new spaced).run greetings).ledger
        ((new spaced).run greetings).guest).1 = .ok "hello" := by
  have second : ((writeString "hi" .nul).perform
      ((new spaced).run [.write "hello" .nul]).ledger
      ((new spaced).run [.write "hello" .nul]).guest).1 =
        .ok ⟨128, 2, 3, .nul⟩ := by
    decide +kernel
  have spared : ((new spaced).run [.write "hello" .nul]).Throughout
      (Spares (span 64 5)) [.write "hi" .nul] := by
    refine ⟨?_, trivial⟩
    intro string written
    rw [second] at written
    obtain rfl := Except.ok.inj written
    refine Set.disjoint_left.mpr fun place here there => ?_
    have low : 128 ≤ place := here.1
    have high : place < 64 + 5 := there.2
    omega
  have first : ((writeString "hello" .nul).perform .empty spaced).1 =
      .ok ⟨64, 5, 6, .nul⟩ := by
    decide +kernel
  rcases written : (writeString "hello" .nul).perform .empty spaced with
    ⟨result, after, left⟩
  rw [written] at first
  simp only at first
  subst first
  have keeps := run_keepsTexts spaced greetings
  have read := keeps.readBack Dispenser.isQuiet [] "hello" .nul
    [.write "hi" .nul] _ after left rfl (by decide) written spared
  exact ⟨spared, congrArg Prod.fst read⟩

/-- Both strings are in use, the second one inside the first, which does not
read as it was written. -/
theorem not_apart_nested :
    ((new nested).run greetings).inHand =
        [⟨66, 2, 3, .nul⟩, ⟨64, 5, 6, .nul⟩] ∧
      ¬ ((new nested).run greetings).ledger.Apart ∧
      ((readString 64 5).perform ((new nested).run greetings).ledger
        ((new nested).run greetings).guest).1 = .ok "hehi\x00" := by
  have live : ((new nested).run greetings).ledger.live =
      [(66, 3), (64, 6)] := by
    decide +kernel
  have memory : Guest.memory ((new nested).run greetings).guest =
      ((Memory.new 256 0).write 64 [104, 101, 108, 108, 111, 0]).write 66
        [104, 105, 0] :=
    rfl
  have bytes : (Guest.memory ((new nested).run greetings).guest).read 64 5 =
      [104, 101, 104, 105, 0] := by
    rw [memory]
    simp [Memory.write, Memory.read, get_set, List.range']
  have read : (Guest.memory ((new nested).run greetings).guest).readText 64 5 =
      .ok "hehi\x00" := by
    have inside : (Guest.memory ((new nested).run greetings).guest).checkSpan
        64 5 = .ok () := by
      decide +kernel
    exact (readText_eq_ok_iff ..).mpr ⟨inside, bytes⟩
  refine ⟨by decide +kernel, ?_, ?_⟩
  · intro apart
    rw [Ledger.Apart, live] at apart
    have disjoint :=
      List.rel_of_pairwise_cons apart (List.mem_singleton_self _)
    have inner : 66 ∈ Ledger.block (66, 3) := ⟨by decide, by decide⟩
    have outer : 66 ∈ Ledger.block (64, 6) := ⟨by decide, by decide⟩
    exact Set.disjoint_left.mp disjoint inner outer
  · rw [readString, perform_call, run_inspect, read]
    rfl

end Dealings

end Exchange

end KeymapViewer
