import KeymapViewer.Proofs.Preview.Progress

/-!
Deliveries of news. Listeners come, stop to listen and are struck off in any
order, and in between the server runs its cycles. Everyone who listens all the
time is told of each cycle once.
-/

namespace KeymapViewer.Preview

/-! ## One listener -/

namespace Listener

/-- Someone takes the news, and the listener is registered for them. -/
def listens (listener : Listener) : Bool :=
  listener.registered && listener.inbox.isSome

/-- Only those who listen stay registered when they are told something. -/
theorem registered_tell (reload : Reload) (listener : Listener) :
    (listener.tell reload).registered = listener.listens := by
  obtain ⟨id, registered, inbox⟩ := listener
  cases registered with
  | false =>
      rfl
  | true =>
      cases inbox with
      | none =>
          rfl
      | some news =>
          rfl

theorem listens_tell (reload : Reload) (listener : Listener) :
    (listener.tell reload).listens = listener.listens := by
  obtain ⟨id, registered, inbox⟩ := listener
  cases registered with
  | false =>
      rfl
  | true =>
      cases inbox with
      | none =>
          rfl
      | some news =>
          rfl

theorem inbox_tell {listener : Listener} (reload : Reload)
    (listens : listener.listens = true) :
    (listener.tell reload).inbox = listener.inbox.map (· ++ [reload]) := by
  obtain ⟨id, registered, inbox⟩ := listener
  simp only [Listener.listens, Bool.and_eq_true] at listens
  obtain ⟨rfl, taken⟩ := listens
  obtain ⟨news, rfl⟩ := Option.isSome_iff_exists.mp taken
  rfl

end Listener

namespace Audience

/-- A listener who comes anew. -/
def newcomer (audience : Audience) : Listener :=
  ⟨audience.nextId, true, some []⟩

theorem announce_notified (audience : Audience) (reload : Reload) :
    (audience.announce reload).1 =
      audience.listeners.countP Listener.listens := by
  simp only [announce, registered, List.length_map,
    ← List.countP_eq_length_filter, List.countP_map]
  exact List.countP_congr fun listener _ => by
    simp [Listener.registered_tell]

/-- Leaving strikes off the one that has the id, if it is registered. -/
theorem registered_leave {audience : Audience}
    (different : (audience.listeners.map (·.id)).Nodup) (id : Nat) :
    (audience.leave id).registered = audience.registered.erase id := by
  have few : audience.registered.Nodup :=
    different.sublist (List.filter_sublist.map _)
  rw [few.erase_eq_filter]
  simp only [registered, leave, change]
  clear few different
  induction audience.listeners with
  | nil =>
      rfl
  | cons listener rest inductionHypothesis =>
      rw [List.map_cons, List.filter_cons, List.filter_cons]
      by_cases named : listener.id = id
      · cases listener.registered with
        | false =>
            simpa [named] using inductionHypothesis
        | true =>
            simpa [named] using inductionHypothesis
      · cases same : listener.registered with
        | false =>
            simpa [named, same] using inductionHypothesis
        | true =>
            simpa [named, same] using inductionHypothesis

theorem listener?_leave (audience : Audience) {id other : Nat}
    (apart : other ≠ id) :
    (audience.leave id).listener? other = audience.listener? other := by
  simp only [listener?, leave, change]
  induction audience.listeners with
  | nil =>
      rfl
  | cons listener rest inductionHypothesis =>
      rw [List.map_cons, List.find?_cons, List.find?_cons, inductionHypothesis]
      by_cases named : listener.id = id
      · simp [named, apart.symm]
      · rw [if_neg named]

end Audience

/-! ## Visits -/

/-- What listeners do, and what they wait for. -/
inductive Visit where
  | join
  | hangUp (id : Nat)
  | leave (id : Nat)
  | cycle (disk : Disk)

namespace Visit

def isJoin : Visit → Bool
  | join => true
  | _ => false

def isCycle : Visit → Bool
  | cycle _ => true
  | _ => false

end Visit

namespace Server

def attend (server : Server) : Visit → Server
  | .join => (server.withAudience Audience.join).2
  | .hangUp id => (server.withAudience (·.hangUp id)).2
  | .leave id => { server with audience := server.audience.leave id }
  | .cycle disk => (server.cycle disk).2

def attendAll (server : Server) (visits : List Visit) : Server :=
  visits.foldl attend server

/-- The id that is given out at a visit. -/
def issued? (server : Server) : Visit → Option Nat
  | .join => some (server.withAudience Audience.join).1
  | _ => none

/-- All ids that are given out, one after another. -/
def issued : Server → List Visit → List Nat := observed attend issued?

/-- The news of a visit. -/
def news? (server : Server) : Visit → Option Reload
  | .cycle disk => some (server.cycle disk).1.reload
  | _ => none

/-- The news of all cycles, one after another. -/
def news : Server → List Visit → List Reload := observed attend news?

/-! ## One visit -/

/-- What a visit makes of a listener who came before. -/
def affect (server : Server) : Visit → Listener → Listener
  | .join, listener => listener
  | .hangUp id, listener =>
    if listener.id = id then { listener with inbox := none } else listener
  | .leave id, listener =>
    if listener.id = id then { listener with registered := false }
    else listener
  | .cycle disk, listener => listener.tell (server.cycle disk).1.reload

/-- The listener who comes with a visit. -/
def newcomer? (server : Server) : Visit → Option Listener
  | .join => some server.audience.newcomer
  | _ => none

theorem listeners_attend (server : Server) (visit : Visit) :
    (server.attend visit).audience.listeners =
      server.audience.listeners.map (server.affect visit) ++
        (server.newcomer? visit).toList := by
  cases visit with
  | join =>
      exact congrArg (· ++ [server.audience.newcomer])
        (List.map_id' server.audience.listeners).symm
  | hangUp id =>
      exact (List.append_nil _).symm
  | leave id =>
      exact (List.append_nil _).symm
  | cycle disk =>
      change (server.cycle disk).2.audience.listeners = _
      rw [audience_cycle]
      exact (List.append_nil _).symm

theorem id_affect (server : Server) (visit : Visit) (listener : Listener) :
    (server.affect visit listener).id = listener.id := by
  cases visit with
  | join =>
      rfl
  | hangUp id =>
      by_cases named : listener.id = id
      · simp [affect, named]
      · simp [affect, named]
  | leave id =>
      by_cases named : listener.id = id
      · simp [affect, named]
      · simp [affect, named]
  | cycle disk =>
      exact Listener.id_tell _ listener

theorem nextId_attend (server : Server) (visit : Visit) :
    (server.attend visit).audience.nextId =
      if visit.isJoin then (server.audience.nextId + 1) % wordCount 64
      else server.audience.nextId := by
  cases visit with
  | join =>
      rfl
  | hangUp id =>
      rfl
  | leave id =>
      rfl
  | cycle disk =>
      change (server.cycle disk).2.audience.nextId = _
      rw [audience_cycle]
      rfl

/-- Whoever listens still listens after a visit, unless the visit is the end of
that. -/
theorem listens_affect (server : Server) (visit : Visit)
    (listener : Listener) :
    (server.affect visit listener).listens = true ↔
      listener.listens = true ∧ visit ≠ .hangUp listener.id ∧
        visit ≠ .leave listener.id := by
  cases visit with
  | join =>
      simp [affect]
  | hangUp id =>
      by_cases named : listener.id = id
      · simp [affect, named, Listener.listens]
      · simp [affect, named, Ne.symm named]
  | leave id =>
      by_cases named : listener.id = id
      · simp [affect, named, Listener.listens]
      · simp [affect, named, Ne.symm named]
  | cycle disk =>
      simp [affect, Listener.listens_tell]

/-- Whoever listens after a visit has been told its news. -/
theorem inbox_affect {server : Server} {visit : Visit} {listener : Listener}
    (listens : (server.affect visit listener).listens = true) :
    (server.affect visit listener).inbox = listener.inbox.map
      (· ++ (server.news? visit).toList) := by
  obtain ⟨before, notHangUp, notLeave⟩ :=
    (listens_affect server visit listener).mp listens
  cases visit with
  | join =>
      simp [affect, news?]
  | hangUp id =>
      have apart : listener.id ≠ id := fun same => notHangUp (same ▸ rfl)
      simp [affect, apart, news?]
  | leave id =>
      have apart : listener.id ≠ id := fun same => notLeave (same ▸ rfl)
      simp [affect, apart, news?]
  | cycle disk =>
      exact Listener.inbox_tell _ before

/-! ## Runs -/

section Runs

variable (start : Server)

theorem attendAll_append (first second : List Visit) :
    start.attendAll (first ++ second) =
      (start.attendAll first).attendAll second :=
  List.foldl_append

theorem attendAll_concat (visits : List Visit) (visit : Visit) :
    start.attendAll (visits ++ [visit]) =
      (start.attendAll visits).attend visit :=
  List.foldl_concat attend start visit visits

theorem issued_concat (visits : List Visit) (visit : Visit) :
    start.issued (visits ++ [visit]) =
      start.issued visits ++ ((start.attendAll visits).issued? visit).toList :=
  observed_concat start visits visit

theorem news_concat (visits : List Visit) (visit : Visit) :
    start.news (visits ++ [visit]) =
      start.news visits ++ ((start.attendAll visits).news? visit).toList :=
  observed_concat start visits visit

/-- Everyone who ever came keeps the id that was given out then. -/
theorem ids_attendAll (visits : List Visit) :
    (start.attendAll visits).audience.listeners.map (·.id) =
      start.audience.listeners.map (·.id) ++ start.issued visits := by
  induction visits using List.reverseRecOn with
  | nil =>
      exact (List.append_nil _).symm
  | append_singleton earlier visit inductionHypothesis =>
      rw [attendAll_concat, issued_concat, listeners_attend, List.map_append,
        List.map_map, ← List.append_assoc, ← inductionHypothesis]
      congr 1
      · exact List.map_congr_left fun listener _ => id_affect _ visit listener
      · cases visit with
        | join =>
            rfl
        | hangUp id =>
            rfl
        | leave id =>
            rfl
        | cycle disk =>
            rfl

end Runs

/-! ## Numbers -/

section Numbers

variable {start : Server} {visits : List Visit}

theorem nextId_attendAll (opened : start.audience = .empty) :
    (start.attendAll visits).audience.nextId =
      (visits.countP Visit.isJoin + 1) % wordCount 64 := by
  induction visits using List.reverseRecOn with
  | nil =>
      rw [attendAll, List.foldl_nil, opened]
      rfl
  | append_singleton earlier visit inductionHypothesis =>
      rw [attendAll_concat, nextId_attend, inductionHypothesis,
        List.countP_append, List.countP_singleton]
      cases visit.isJoin with
      | true =>
          simp only [↓reduceIte, Nat.mod_add_mod]
      | false =>
          rfl

theorem issued_eq (opened : start.audience = .empty)
    (few : visits.countP Visit.isJoin < wordCount 64) :
    start.issued visits = List.range' 1 (visits.countP Visit.isJoin) := by
  induction visits using List.reverseRecOn with
  | nil =>
      rfl
  | append_singleton earlier visit inductionHypothesis =>
      rw [List.countP_append, List.countP_singleton] at few
      have fewer : earlier.countP Visit.isJoin < wordCount 64 := by
        omega
      rw [issued_concat, inductionHypothesis fewer, List.countP_append,
        List.countP_singleton]
      cases visit with
      | join =>
          simp only [Visit.isJoin, ↓reduceIte] at few ⊢
          have next : (start.attendAll earlier).audience.nextId =
              1 + earlier.countP Visit.isJoin := by
            rw [nextId_attendAll opened, Nat.mod_eq_of_lt few, add_comm]
          rw [List.range'_1_concat, ← next]
          rfl
      | hangUp id =>
          exact List.append_nil _
      | leave id =>
          exact List.append_nil _
      | cycle disk =>
          exact List.append_nil _

theorem version_cycle {server : Server} (disk : Disk)
    (below : server.progress.version < Progress.lastVersion) :
    (server.cycle disk).2.progress.version =
      server.progress.version + 1 := by
  rw [progress_cycle, Progress.version_record _ _ below]

theorem version_attendAll
    (few : start.progress.version + visits.countP Visit.isCycle <
      wordCount 64) :
    (start.attendAll visits).progress.version =
      start.progress.version + visits.countP Visit.isCycle := by
  induction visits using List.reverseRecOn with
  | nil =>
      rfl
  | append_singleton earlier visit inductionHypothesis =>
      rw [List.countP_append, List.countP_singleton] at few ⊢
      have before := inductionHypothesis (by omega)
      rw [attendAll_concat]
      cases visit with
      | join =>
          exact before
      | hangUp id =>
          exact before
      | leave id =>
          exact before
      | cycle disk =>
          simp only [Visit.isCycle, ↓reduceIte] at few ⊢
          have below : (start.attendAll earlier).progress.version <
              Progress.lastVersion := by
            rw [before, Progress.lastVersion]
            omega
          change ((start.attendAll earlier).cycle disk).2.progress.version = _
          rw [version_cycle disk below, before]
          rfl

/-- The news are numbered without a gap. -/
theorem versions_news
    (few : start.progress.version + visits.countP Visit.isCycle <
      wordCount 64) :
    (start.news visits).map (·.version) =
      List.range' (start.progress.version + 1)
        (visits.countP Visit.isCycle) := by
  induction visits using List.reverseRecOn with
  | nil =>
      rfl
  | append_singleton earlier visit inductionHypothesis =>
      have after := version_attendAll few
      rw [List.countP_append, List.countP_singleton] at few ⊢
      rw [news_concat, List.map_append, inductionHypothesis (by omega)]
      cases visit with
      | join =>
          exact List.append_nil _
      | hangUp id =>
          exact List.append_nil _
      | leave id =>
          exact List.append_nil _
      | cycle disk =>
          have counted : ((start.attendAll earlier).cycle disk).1.version =
              start.progress.version + 1 + earlier.countP Visit.isCycle := by
            rw [attendAll_concat, List.countP_append] at after
            rw [add_right_comm]
            exact after
          simp only [Visit.isCycle, ↓reduceIte]
          rw [List.range'_1_concat, ← counted]
          rfl

end Numbers

/-! ## Deliveries -/

section Deliveries

variable {start : Server} {earlier later visits : List Visit}
  {listener : Listener}

/-- How a listener stands at the end of a run that it joined between an earlier
and a later part. As long as nothing ended its listening, it was told the news
of the later part, each once. -/
structure Follows (start : Server) (earlier later : List Visit)
    (listener : Listener) : Prop where
  id : listener.id = earlier.countP Visit.isJoin + 1
  listens : listener.listens = true ↔
    .hangUp listener.id ∉ later ∧ .leave listener.id ∉ later
  inbox : listener.listens = true → listener.inbox =
    some (((start.attendAll earlier).attend .join).news later)

theorem attendAll_join (start : Server) (earlier later : List Visit) :
    start.attendAll (earlier ++ .join :: later) =
      ((start.attendAll earlier).attend .join).attendAll later :=
  attendAll_append start earlier (.join :: later)

theorem follows_newcomer
    (id : (start.attendAll earlier).audience.nextId =
      earlier.countP Visit.isJoin + 1) :
    Follows start earlier [] (start.attendAll earlier).audience.newcomer where
  id := id
  listens := by
    simp [Audience.newcomer, Listener.listens]
  inbox _ := rfl

theorem Follows.affect (follows : Follows start earlier later listener)
    (visit : Visit) :
    Follows start earlier (later ++ [visit])
      ((start.attendAll (earlier ++ .join :: later)).affect visit
        listener) where
  id := (id_affect _ visit listener).trans follows.id
  listens := by
    rw [listens_affect, id_affect, follows.listens]
    simp only [List.mem_append, List.mem_singleton, not_or]
    constructor
    · rintro ⟨⟨noHangUp, noLeave⟩, notHangUp, notLeave⟩
      exact ⟨⟨noHangUp, notHangUp.symm⟩, noLeave, notLeave.symm⟩
    · rintro ⟨⟨noHangUp, notHangUp⟩, noLeave, notLeave⟩
      exact ⟨⟨noHangUp, noLeave⟩, Ne.symm notHangUp, Ne.symm notLeave⟩
  inbox listens := by
    have before := (listens_affect _ visit listener).mp listens
    rw [inbox_affect listens, follows.inbox before.1, news_concat,
      attendAll_join]
    rfl

/-- Whoever is there came with one of the visits, and follows those after. -/
theorem exists_follows (opened : start.audience = .empty)
    (few : visits.countP Visit.isJoin < wordCount 64)
    (there : listener ∈ (start.attendAll visits).audience.listeners) :
    ∃ earlier later, visits = earlier ++ .join :: later ∧
      Follows start earlier later listener := by
  induction visits using List.reverseRecOn generalizing listener with
  | nil =>
      rw [attendAll, List.foldl_nil, opened] at there
      cases there
  | append_singleton before visit inductionHypothesis =>
      rw [List.countP_append, List.countP_singleton] at few
      rw [attendAll_concat, listeners_attend, List.mem_append,
        List.mem_map] at there
      rcases there with ⟨known, member, rfl⟩ | new
      · obtain ⟨earlier, later, rfl, follows⟩ :=
          inductionHypothesis (by omega) member
        exact ⟨earlier, later ++ [visit], by simp, follows.affect visit⟩
      · cases visit with
        | join =>
            simp only [Visit.isJoin, ↓reduceIte] at few
            obtain rfl := List.mem_singleton.mp new
            refine ⟨before, [], rfl, follows_newcomer ?_⟩
            rw [nextId_attendAll opened, Nat.mod_eq_of_lt few]
        | hangUp id =>
            cases new
        | leave id =>
            cases new
        | cycle disk =>
            cases new

/-- What listeners can count on at the end of a run. -/
structure Delivers (start : Server) (visits : List Visit) : Prop where
  issued : start.issued visits =
    List.range' 1 (visits.countP Visit.isJoin)
  different : (start.issued visits).Nodup
  ids : (start.attendAll visits).audience.listeners.map (·.id) =
    start.issued visits
  follows : ∀ listener ∈ (start.attendAll visits).audience.listeners,
    ∃ earlier later, visits = earlier ++ .join :: later ∧
      Follows start earlier later listener
  /-- The news of any part of the run count on from those before it. -/
  versions : ∀ earlier later, visits = earlier ++ later →
    ((start.attendAll earlier).news later).map (·.version) =
      List.range' (earlier.countP Visit.isCycle + 1)
        (later.countP Visit.isCycle)
  /-- The next cycle reports how many listen. -/
  notified : ∀ disk, ((start.attendAll visits).cycle disk).1.notified =
    (start.attendAll visits).audience.listeners.countP Listener.listens
  /-- After the next cycle only those are registered who listen. -/
  strikesOff : ∀ disk,
    ∀ listener ∈
      ((start.attendAll visits).cycle disk).2.audience.listeners,
      listener.registered = true → listener.listens = true
  leaves : ∀ id,
    ((start.attendAll visits).attend (.leave id)).audience.registered =
      (start.attendAll visits).audience.registered.erase id
  /-- Nobody else is touched when someone leaves. -/
  spares : ∀ id other, other ≠ id →
    ((start.attendAll visits).attend (.leave id)).audience.listener? other =
      (start.attendAll visits).audience.listener? other

end Deliveries

theorem notified_cycle (server : Server) (disk : Disk) :
    (server.cycle disk).1.notified =
      server.audience.listeners.countP Listener.listens := by
  rw [← audience_draw server disk]
  exact Audience.announce_notified (server.draw disk).2.audience _

/-- Only listeners are registered after a cycle. -/
theorem listens_cycle {server : Server} {disk : Disk} {listener : Listener}
    (there : listener ∈ (server.cycle disk).2.audience.listeners)
    (registered : listener.registered = true) :
    listener.listens = true := by
  rw [audience_cycle] at there
  obtain ⟨before, -, rfl⟩ := List.mem_map.mp there
  rw [Listener.registered_tell] at registered
  rw [Listener.listens_tell, registered]

/-- Whatever listeners do and whatever comes of the cycles, the news are
delivered, as long as the ids and the versions do not run out. -/
theorem attendAll_delivers (viewer : Viewer) (keymap : String)
    (visits : List Visit)
    (fewJoins : visits.countP Visit.isJoin < wordCount 64)
    (fewCycles : visits.countP Visit.isCycle < wordCount 64) :
    (new viewer keymap).Delivers visits := by
  have opened : (new viewer keymap).audience = .empty := rfl
  have issued := issued_eq opened fewJoins
  have different : ((new viewer keymap).issued visits).Nodup :=
    issued ▸ List.nodup_range'
  have ids : _ = (new viewer keymap).issued visits :=
    ids_attendAll (new viewer keymap) visits
  exact {
    issued
    different
    ids
    follows := fun listener there => exists_follows opened fewJoins there
    versions := by
      rintro earlier later rfl
      rw [List.countP_append] at fewCycles
      have start : (new viewer keymap).progress.version = 0 := rfl
      have version : ((new viewer keymap).attendAll earlier).progress.version =
          earlier.countP Visit.isCycle := by
        rw [version_attendAll (by omega), start, Nat.zero_add]
      rw [versions_news (by omega), version]
    notified := notified_cycle _
    strikesOff := fun disk listener => listens_cycle
    leaves := fun id => Audience.registered_leave (ids ▸ different) id
    spares := fun id other => Audience.listener?_leave _ }

theorem cycle_of_unread {server : Server} {disk : Disk} {fault : Fault}
    (unread : readKeymap disk server.keymap = .error fault) :
    (server.cycle disk).2 =
      let progress := server.progress.record (.error fault)
      { server with
        progress
        audience := server.audience.hear ⟨progress.version, false⟩ } := by
  rw [cycle, draw, unread]
  rfl

/-- Two come, one of them stops to listen between two cycles, and a third comes
after the second. -/
def busyVisits : List Visit := [
  .join, .join, .cycle ⟨[], []⟩, .hangUp 1, .leave 7, .cycle ⟨[], []⟩, .join]

theorem busyVisits_delivers :
    ∃ viewer, Viewer.OpensPlain (echoDisk "") .default "/" viewer ∧
      busyVisits.countP Visit.isJoin < wordCount 64 ∧
      busyVisits.countP Visit.isCycle < wordCount 64 ∧
      (new viewer "keymap").Delivers busyVisits ∧
      ((new viewer "keymap").attendAll busyVisits).audience =
        ⟨[⟨1, false, none⟩, ⟨2, true, some [⟨1, false⟩, ⟨2, false⟩]⟩,
          ⟨3, true, some []⟩], 4⟩ := by
  have plain : Settings.default.viewer = .default := rfl
  obtain ⟨viewer, opens, -⟩ :=
    Viewer.openWith_echo plain rfl (bytes_echoDisk "" .offline)
  have fewJoins : busyVisits.countP Visit.isJoin < wordCount 64 := by
    decide +kernel
  have fewCycles : busyVisits.countP Visit.isCycle < wordCount 64 := by
    decide +kernel
  obtain ⟨fault, unread⟩ :
      ∃ fault, readKeymap ⟨[], []⟩ "keymap" = .error fault := ⟨_, rfl⟩
  refine ⟨viewer, opens, fewJoins, fewCycles,
    attendAll_delivers viewer "keymap" busyVisits fewJoins fewCycles, ?_⟩
  have cycled (server : Server) (same : server.keymap = "keymap") :=
    cycle_of_unread (show readKeymap ⟨[], []⟩ server.keymap = .error fault
      from same.symm ▸ unread)
  simp only [busyVisits, attendAll, List.foldl_cons, List.foldl_nil, attend,
    withAudience, new, cycled]
  rfl

end Server

end KeymapViewer.Preview
