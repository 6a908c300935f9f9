import KeymapViewer.Proofs.Client.Request
import KeymapViewer.Proofs.Stub.EchoRender

/-!
Runs of renders with the stub that copies its input. Every render is answered
with its text up to the first character zero, and the blocks that the stub
hands out lie one after another in its memory.
-/

namespace KeymapViewer

open Text Wasm Stub

/-- Some bytes of a memory. -/
structure Block where
  start : Nat
  size : Nat
  deriving DecidableEq, Repr

namespace Block

def finish (block : Block) : Nat := block.start + block.size

/-- No byte is in both blocks. -/
def Apart (first second : Block) : Prop :=
  first.finish ≤ second.start ∨ second.finish ≤ first.start

/-- The block that the guest hands out in a call of a render. A text that it
hands over has a zero byte after it. -/
def handedBy (answer : String) : GuestCall → Option Block
  | .alloc size (some pointer) => some ⟨pointer.toNat, size.toNat⟩
  | .deallocText pointer => some ⟨pointer.toNat, byteLength answer + 1⟩
  | _ => none

end Block

namespace Stub

/-! ## Blocks one after another -/

/-- The blocks of renders, from the heap end on. -/
def echoBlocks (heap : Nat) : List String → List Block
  | [] => []
  | text :: rest =>
    ⟨heap, byteLength text + 1⟩ ::
      ⟨textEnd heap text, byteLength (upToNul text) + 1⟩ ::
      echoBlocks (echoEnd heap text) rest

theorem lt_echoEnd (heap : Nat) (text : String) :
    textEnd heap text + byteLength (upToNul text) < echoEnd heap text :=
  lt_textEnd _ _

theorem le_foldl_echoEnd (heap : Nat) (texts : List String) :
    heap ≤ texts.foldl echoEnd heap := by
  induction texts generalizing heap with
  | nil =>
      exact le_rfl
  | cons text rest inductionHypothesis =>
      have first := lt_textEnd heap text
      have second := lt_echoEnd heap text
      have others := inductionHypothesis (echoEnd heap text)
      rw [List.foldl_cons]
      omega

/-- The blocks lie between the heap ends, each at a multiple of eight. -/
theorem bounds_of_mem_echoBlocks {heap : Nat} {texts : List String}
    {block : Block} (member : block ∈ echoBlocks heap texts) :
    heap ≤ block.start ∧ block.finish ≤ texts.foldl echoEnd heap ∧
      (8 ∣ heap → 8 ∣ block.start) := by
  induction texts generalizing heap with
  | nil =>
      cases member
  | cons text rest inductionHypothesis =>
      have first := lt_textEnd heap text
      have second := lt_echoEnd heap text
      have others := le_foldl_echoEnd (echoEnd heap text) rest
      have alignedSecond : 8 ∣ heap → 8 ∣ textEnd heap text := fun aligned =>
        Nat.dvd_add aligned (Dvd.intro_left _ rfl)
      have alignedRest : 8 ∣ heap → 8 ∣ echoEnd heap text := fun aligned =>
        Nat.dvd_add (alignedSecond aligned) (Dvd.intro_left _ rfl)
      rw [List.foldl_cons]
      rcases List.mem_cons.mp member with rfl | member
      · exact ⟨le_rfl, (Nat.succ_le_of_lt first).trans (by omega), id⟩
      rcases List.mem_cons.mp member with rfl | member
      · exact ⟨(Nat.le_add_right ..).trans first.le,
          (Nat.succ_le_of_lt second).trans others, alignedSecond⟩
      · obtain ⟨start, finish, aligned⟩ := inductionHypothesis member
        exact ⟨by omega, finish, aligned ∘ alignedRest⟩

/-- A block starts where the heap has ended before, so the blocks after it do
not reach into it. -/
theorem pairwise_apart_echoBlocks (heap : Nat) (texts : List String) :
    (echoBlocks heap texts).Pairwise Block.Apart := by
  induction texts generalizing heap with
  | nil =>
      exact .nil
  | cons text rest inductionHypothesis =>
      have first := lt_textEnd heap text
      have second := lt_echoEnd heap text
      refine .cons ?_ (.cons ?_ (inductionHypothesis _))
      · intro block member
        have later : textEnd heap text ≤ block.start := by
          rcases List.mem_cons.mp member with rfl | member
          · exact le_rfl
          · have := (bounds_of_mem_echoBlocks member).1
            omega
        exact .inl ((Nat.succ_le_of_lt first).trans later)
      · intro block member
        exact .inl ((Nat.succ_le_of_lt second).trans
          (bounds_of_mem_echoBlocks member).1)

/-- The steps that suffice for every text that fits into the heap. -/
theorem echoSteps_lt_defaultBudget {heap : Nat} {text : String}
    (fits : echoEnd heap text ≤ heapLimit) :
    echoSteps (byteLength (upToNul text)) < defaultBudget := by
  have limit := heapLimit_eq
  have second := lt_echoEnd heap text
  have budget : defaultBudget = 1125899906842624 := by decide
  unfold echoSteps
  omega

theorem echoes_started {budget : Nat} (enough : 32 < budget) (page : Page) :
    Echoes (started cStringModule [] ⟨0, 1, some 2⟩ 3 budget page)
      heapStart.toNat where
  heap := hasHeap_initialStore rfl rfl
  alloc := ⟨rfl, Nat.zero_le _, rfl⟩
  dealloc := ⟨rfl, Nat.zero_le _, rfl⟩
  budget := enough
  deallocText := ⟨2, rfl, rfl, Nat.zero_le _, rfl⟩
  entry := ⟨rfl, Nat.zero_le _, rfl⟩

end Stub

namespace Client

/-- The blocks that the guest hands out while it renders a text. -/
def handedOut (client : Client) (text : String) : List Block :=
  (client.calls (.markup text)).filterMap
    (Block.handedBy ((client.renderMarkup text).1.toOption.getD ""))

/-- The client after texts have been rendered one after another. -/
def renderAll (client : Client) (texts : List String) : Client :=
  texts.foldl (fun client text => (client.renderMarkup text).2) client

/-- The blocks that the guest hands out while it renders texts one after
another. -/
def handedOutBy : Client → List String → List Block
  | _, [] => []
  | client, text :: rest =>
    client.handedOut text ++ (client.renderMarkup text).2.handedOutBy rest

def withBudget (client : Client) (budget : Nat) : Client :=
  { client with running := { client.running with budget } }

/-! ## One render -/

/-- A client of the stub between renders. -/
structure Echoing (client : Client) (heap : Nat) : Prop where
  abi : client.contract.abi = .cString
  clean : client.ledger.live = []
  echoes : Echoes client.running heap

variable {client : Client} {heap : Nat} {text : String}

theorem Echoing.withBudget (echoing : Echoing client heap) {budget : Nat}
    (enough : 32 < budget) : Echoing (client.withBudget budget) heap :=
  { echoing with
    echoes := { echoing.echoes with budget := enough } }

theorem Echoing.renderMarkup (echoing : Echoing client heap)
    (fits : echoEnd heap text ≤ heapLimit)
    (enough : echoSteps (byteLength (upToNul text)) <
      client.running.budget) :
    ∃ after, client.renderMarkup text = (.ok (upToNul text), after) ∧
      client.calls (.markup text) = echoCalls heap text ∧
      after.running.budget = client.running.budget ∧
      after.running.host = client.running.host.beginCall ∧
      Echoing after (echoEnd heap text) := by
  obtain ⟨ledger, performed, empty⟩ := perform_renderText echoing.echoes fits
    enough client.contract.entry echoing.clean
  have recorded : client.record.renderMarkup text = (.ok (upToNul text),
      { client with
        ledger
        running := ⟨client.running.resume
          (withEcho client.running.store heap text)
          client.running.host.beginCall, echoCalls heap text⟩ }) := by
    have sameAbi : client.record.contract.abi = .cString := echoing.abi
    simp only [Client.renderMarkup, sameAbi, Client.perform]
    rw [show (Client.renderText client.record.contract.entry text).perform
      client.record.ledger client.record.running = _ from performed]
    rfl
  obtain ⟨sameAnswer, sameClient⟩ :=
    Client.renderMarkup_inside client.record text
  have answered : client.renderMarkup text = (.ok (upToNul text),
      { client with
        ledger
        running := client.running.resume
          (withEcho client.running.store heap text)
          client.running.host.beginCall }) := by
    rw [recorded] at sameAnswer sameClient
    exact Prod.ext sameAnswer.symm sameClient.symm
  have made : client.calls (.markup text) = echoCalls heap text :=
    congrArg (·.2.running.calls) recorded
  exact ⟨_, answered, made, Instance.budget_resume ..,
    Instance.host_resume .., echoing.abi, empty,
    echoing.echoes.resume (echoing.echoes.heap.withEcho fits) _⟩

theorem Echoing.handedOut (echoing : Echoing client heap)
    (fits : echoEnd heap text ≤ heapLimit)
    (enough : echoSteps (byteLength (upToNul text)) <
      client.running.budget) :
    client.handedOut text = echoBlocks heap [text] := by
  have limit := heapLimit_eq
  have word := wordCount_word
  have first := lt_textEnd heap text
  have second := lt_echoEnd heap text
  obtain ⟨after, answered, made, -⟩ := echoing.renderMarkup fits enough
  have input : heap.toUInt32.toNat = heap := toNat_toUInt32 (by omega)
  have output : (textEnd heap text).toUInt32.toNat = textEnd heap text :=
    toNat_toUInt32 (by omega)
  have size : (Exchange.blockSize text).toNat = byteLength text + 1 :=
    toNat_blockSize (by omega)
  simp only [Client.handedOut, answered, made, echoCalls,
    List.filterMap_cons, Block.handedBy, List.filterMap_nil, input, output,
    size]
  rfl

/-! ## Runs -/

theorem Echoing.renderAll (echoing : Echoing client heap)
    (budget : client.running.budget = defaultBudget) {texts : List String}
    (fits : texts.foldl echoEnd heap ≤ heapLimit) :
    Echoing (client.renderAll texts) (texts.foldl echoEnd heap) ∧
      (client.renderAll texts).running.budget = defaultBudget ∧
      client.handedOutBy texts = echoBlocks heap texts := by
  -- The heap end is all that one render hands on to the next.
  induction texts generalizing client heap with
  | nil =>
      exact ⟨echoing, budget, rfl⟩
  | cons text rest inductionHypothesis =>
      have here : echoEnd heap text ≤ heapLimit :=
        (le_foldl_echoEnd _ rest).trans fits
      have enough : echoSteps (byteLength (upToNul text)) <
          client.running.budget :=
        (echoSteps_lt_defaultBudget here).trans_eq budget.symm
      obtain ⟨after, answered, -, kept, -, echoingAfter⟩ :=
        echoing.renderMarkup here enough
      obtain ⟨echoingEnd, budgetEnd, blocks⟩ :=
        inductionHypothesis echoingAfter (kept.trans budget) fits
      have next : (client.renderMarkup text).2 = after :=
        congrArg Prod.snd answered
      refine ⟨?_, ?_, ?_⟩
      · rw [Client.renderAll, List.foldl_cons, next]
        exact echoingEnd
      · rw [Client.renderAll, List.foldl_cons, next]
        exact budgetEnd
      · rw [Client.handedOutBy, next, blocks,
          echoing.handedOut here enough]
        rfl

/-- What renders of texts, one after another, are like. -/
structure EchoesAll (client : Client) (texts : List String) : Prop where
  /-- Every text is answered up to its first character zero. -/
  answers : ∀ earlier text later, texts = earlier ++ text :: later →
    ((client.renderAll earlier).renderMarkup text).1 = .ok (upToNul text)
  /-- The loops of the guest end after so many steps. -/
  ends : ∀ earlier text later, texts = earlier ++ text :: later →
    ∀ budget, echoSteps (byteLength (upToNul text)) < budget →
      (((client.renderAll earlier).withBudget budget).renderMarkup text).1 =
        .ok (upToNul text)
  /-- The heap ends after the blocks. -/
  heapEnd : ∀ earlier later, texts = earlier ++ later →
    (client.renderAll earlier).running.store.globals =
      [.i32 (earlier.foldl echoEnd heapStart.toNat).toUInt32]
  handsOutTwo : ∀ earlier text later, texts = earlier ++ text :: later →
    ((client.renderAll earlier).handedOut text).length = 2
  inside : ∀ earlier text later, texts = earlier ++ text :: later →
    ∀ block ∈ (client.renderAll earlier).handedOut text,
      block.finish ≤
        (client.renderAll (earlier ++ [text])).running.store.memory.size
  aligned : ∀ block ∈ client.handedOutBy texts, 8 ∣ block.start
  afterData : ∀ block ∈ client.handedOutBy texts, 1024 ≤ block.start
  apart : (client.handedOutBy texts).Pairwise Block.Apart

theorem Echoing.echoesAll {client : Client}
    (echoing : Echoing client heapStart.toNat)
    (budget : client.running.budget = defaultBudget) {texts : List String}
    (fits : texts.foldl echoEnd heapStart.toNat ≤ heapLimit) :
    client.EchoesAll texts := by
  have blocks := (echoing.renderAll budget fits).2.2
  have upTo : ∀ earlier later, texts = earlier ++ later →
      earlier.foldl echoEnd heapStart.toNat ≤ heapLimit := by
    rintro earlier later rfl
    rw [List.foldl_append] at fits
    exact (le_foldl_echoEnd _ later).trans fits
  have before : ∀ earlier text later, texts = earlier ++ text :: later →
      Echoing (client.renderAll earlier)
          (earlier.foldl echoEnd heapStart.toNat) ∧
        (client.renderAll earlier).running.budget = defaultBudget ∧
        echoEnd (earlier.foldl echoEnd heapStart.toNat) text ≤ heapLimit := by
    intro earlier text later split
    obtain ⟨echoingHere, budgetHere, -⟩ :=
      echoing.renderAll budget (upTo earlier _ split)
    have here := upTo (earlier ++ [text]) later (by simpa using split)
    rw [List.foldl_append] at here
    exact ⟨echoingHere, budgetHere, here⟩
  exact {
    answers := by
      intro earlier text later split
      obtain ⟨echoingHere, budgetHere, here⟩ := before earlier text later split
      obtain ⟨after, answered, -⟩ := echoingHere.renderMarkup here
        ((echoSteps_lt_defaultBudget here).trans_eq budgetHere.symm)
      exact congrArg Prod.fst answered
    ends := by
      intro earlier text later split budget enough
      obtain ⟨echoingHere, -, here⟩ := before earlier text later split
      have many : 32 < budget := by
        unfold echoSteps at enough
        omega
      obtain ⟨after, answered, -⟩ :=
        (echoingHere.withBudget many).renderMarkup here enough
      exact congrArg Prod.fst answered
    heapEnd := by
      intro earlier later split
      exact (echoing.renderAll budget
        (upTo earlier later split)).1.echoes.heap.globals
    handsOutTwo := by
      intro earlier text later split
      obtain ⟨echoingHere, budgetHere, here⟩ := before earlier text later split
      rw [echoingHere.handedOut here
        ((echoSteps_lt_defaultBudget here).trans_eq budgetHere.symm)]
      rfl
    inside := by
      intro earlier text later split block member
      obtain ⟨echoingHere, budgetHere, here⟩ := before earlier text later split
      have grown := (echoing.renderAll budget (upTo (earlier ++ [text]) later
        (by simpa using split))).1.echoes.heap.inside
      rw [List.foldl_append] at grown
      rw [echoingHere.handedOut here
        ((echoSteps_lt_defaultBudget here).trans_eq budgetHere.symm)]
        at member
      exact (bounds_of_mem_echoBlocks member).2.1.trans grown
    aligned := by
      intro block member
      rw [blocks] at member
      exact (bounds_of_mem_echoBlocks member).2.2 (by decide)
    afterData := by
      intro block member
      rw [blocks] at member
      exact (bounds_of_mem_echoBlocks member).1
    apart := by
      rw [blocks]
      exact pairwise_apart_echoBlocks _ texts }

theorem exists_echoing (page : Page) :
    ∃ client : Client,
      Client.instantiate (Kind.binary .cString) none page = .ok client ∧
        client.page = page ∧ client.running.host.handles = .empty ∧
        client.running.budget = defaultBudget ∧
        Echoing client heapStart.toNat := by
  obtain ⟨contract, abi, instantiated⟩ :=
    starts_cString.instantiateWith defaultBudget page
  exact ⟨_, instantiated, rfl, rfl, rfl, abi, rfl,
    echoes_started (by decide) page⟩

/-- Renders with a new client of the stub that copies its input. -/
theorem instantiate_echoesAll (page : Page) (texts : List String)
    (fits : texts.foldl echoEnd heapStart.toNat ≤ heapLimit) :
    ∃ client, Client.instantiate (Kind.binary .cString) none page =
        .ok client ∧
      client.EchoesAll texts := by
  obtain ⟨client, instantiated, -, -, budget, echoing⟩ := exists_echoing page
  exact ⟨client, instantiated, echoing.echoesAll budget fits⟩

theorem instantiate_echoesAll_three :
    ["<b>\u00fc</b>", "a\x00b", ""].foldl echoEnd heapStart.toNat ≤
        heapLimit ∧
      ∃ client, Client.instantiate (Kind.binary .cString) none
          (Page.parse "<p></p>") = .ok client ∧
        client.EchoesAll ["<b>\u00fc</b>", "a\x00b", ""] := by
  have fits : ["<b>\u00fc</b>", "a\x00b", ""].foldl echoEnd
      heapStart.toNat ≤ heapLimit := by
    decide +kernel
  exact ⟨fits, instantiate_echoesAll _ _ fits⟩

end Client

end KeymapViewer
