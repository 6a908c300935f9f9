import KeymapViewer.Proofs.Fault
import KeymapViewer.Proofs.Memory.Span
import Mathlib.Data.Nat.Find

/-!
The scan for a zero byte. It goes through the memory in chunks, each read at a
cursor that is cut to 32 bits; yet no chunk reaches past the memory, no cursor
loses a bit, and what is found is what a search byte by byte finds.
-/

namespace KeymapViewer.Memory

open Text Wasm

variable {memory : Memory}

/-! ## The first zero byte -/

/-- The first zero byte from a place on is so many bytes behind it. -/
structure FirstZero (memory : Memory) (place length : Nat) : Prop where
  inside : place + length < memory.size
  nonzero : ∀ index < length, memory.get (place + index) ≠ 0
  zero : memory.get (place + length) = 0

/-- There is no zero byte from a place on. -/
def NoZero (memory : Memory) (place : Nat) : Prop :=
  ∀ index, place + index < memory.size → memory.get (place + index) ≠ 0

theorem exists_firstZero_or_noZero (memory : Memory) (place : Nat) :
    (∃ length, memory.FirstZero place length) ∨ memory.NoZero place := by
  by_cases terminated : ∃ length, place + length < memory.size ∧
      memory.get (place + length) = 0
  · left
    obtain ⟨inside, zero⟩ := Nat.find_spec terminated
    refine ⟨Nat.find terminated, inside, fun index before isZero => ?_, zero⟩
    exact Nat.find_min terminated before ⟨by omega, isZero⟩
  · right
    intro index inside isZero
    exact terminated ⟨index, inside, isZero⟩

theorem FirstZero.scan {cursor length : Nat}
    (first : memory.FirstZero cursor length) (pointer : UInt32) :
    memory.scan pointer cursor = .ok (memory.read cursor length) :=
  scan_eq pointer first.inside first.nonzero first.zero

theorem zero_notMem_read {place length : Nat} (unending : memory.NoZero place)
    (inside : place + length ≤ memory.size) :
    0 ∉ memory.read place length := by
  intro member
  obtain ⟨index, small, isZero⟩ := List.getElem_of_mem member
  rw [getElem_read] at isZero
  rw [length_read] at small
  exact unending index (by omega) isZero

/-- Without a zero byte the scan runs off the end of the memory. -/
theorem scan_of_noZero (pointer : UInt32) {cursor : Nat}
    (unending : memory.NoZero cursor) :
    memory.scan pointer cursor =
      .error (.unterminated pointer (max cursor memory.size)
        memory.size) := by
  -- The cursor stops at the end of the memory, since the last chunk is cut.
  induction remaining : memory.size - cursor using Nat.strong_induction_on
    generalizing cursor with
  | _ remaining inductionHypothesis =>
      rw [scan]
      by_cases inside : cursor < memory.size
      · have positive : 0 < scanChunk := by
          decide
        generalize chunkEq : min (memory.size - cursor) scanChunk = chunk
        have noZero : memory.NoZero (cursor + chunk) := by
          intro index low
          rw [Nat.add_assoc] at low ⊢
          exact unending _ low
        have later := inductionHypothesis (memory.size - (cursor + chunk))
          (by omega) noZero rfl
        have stops : max (cursor + chunk) memory.size =
            max cursor memory.size := by
          omega
        have clean := zero_notMem_read unending
          (show cursor + chunk ≤ memory.size by omega)
        rw [dif_pos inside]
        simp only
        rw [if_neg (by simpa using clean), later, stops]
        rfl
      · rw [dif_neg inside, max_eq_left (Nat.le_of_not_lt inside)]

theorem scan_eq_ok_iff (pointer : UInt32) (cursor : Nat) (bytes : Bytes) :
    memory.scan pointer cursor = .ok bytes ↔
      ∃ length, memory.FirstZero cursor length ∧
        bytes = memory.read cursor length := by
  constructor
  · intro found
    rcases memory.exists_firstZero_or_noZero cursor with
      ⟨length, first⟩ | unending
    · rw [first.scan] at found
      exact ⟨length, first, (Except.ok.inj found).symm⟩
    · rw [scan_of_noZero pointer unending] at found
      cases found
  · rintro ⟨length, first, rfl⟩
    exact first.scan pointer

/-! ## The reads of a scan -/

/-- A read that a scan asks for. -/
structure ChunkRead where
  cursor : Nat
  length : Nat
  deriving DecidableEq, Repr

/-- The place that is read, which is a number of 32 bits. -/
def ChunkRead.place (request : ChunkRead) : UInt32 :=
  request.cursor.toUInt32

/-- The scan with the reads that it asks for, each at its place. -/
def scanReads (memory : Memory) (pointer : UInt32) (cursor : Nat) :
    List ChunkRead × Except SpanFault Bytes :=
  if _inside : cursor < memory.size then
    let request : ChunkRead := ⟨cursor, min (memory.size - cursor) scanChunk⟩
    let chunk := memory.read request.place.toNat request.length
    if chunk.contains 0 then ([request], .ok (chunk.takeWhile (· != 0)))
    else
      let (later, result) :=
        memory.scanReads pointer (cursor + request.length)
      (request :: later, result.map (chunk ++ ·))
  else
    ([], .error (.unterminated pointer cursor memory.size))
termination_by memory.size - cursor
decreasing_by
  simp only [scanChunk]
  omega

/-- A read that stays inside the memory, at a cursor that is not cut. -/
structure ChunkRead.Within (request : ChunkRead) (memory : Memory) :
    Prop where
  whole : request.place.toNat = request.cursor
  nonempty : 0 < request.length
  inside : request.cursor + request.length ≤ memory.size

theorem ChunkRead.within {cursor : Nat} (fits : memory.size ≤ wordCount 32)
    (inside : cursor < memory.size) :
    Within ⟨cursor, min (memory.size - cursor) scanChunk⟩ memory := by
  have positive : 0 < scanChunk := by
    decide
  constructor
  · exact toNat_toUInt32 (show cursor < wordCount 32 by omega)
  · simp only
    omega
  · simp only
    omega

/-- In a memory whose places are numbers of 32 bits, the scan asks for reads
inside of it, for each byte at most once, and comes to what the scan with
unbounded places comes to. -/
theorem scanReads_spec (fits : memory.size ≤ wordCount 32)
    (pointer : UInt32) (cursor : Nat) :
    (∀ request ∈ (memory.scanReads pointer cursor).1,
      request.Within memory) ∧
    ((memory.scanReads pointer cursor).1.map ChunkRead.length).sum ≤
      memory.size - cursor ∧
    (memory.scanReads pointer cursor).2 = memory.scan pointer cursor := by
  induction remaining : memory.size - cursor using Nat.strong_induction_on
    generalizing cursor with
  | _ remaining inductionHypothesis =>
      have positive : 0 < scanChunk := by
        decide
      rw [scanReads, scan]
      by_cases inside : cursor < memory.size
      · have within := ChunkRead.within fits inside
        rw [dif_pos inside, dif_pos inside]
        simp only [within.whole]
        by_cases found : (memory.read cursor
            (min (memory.size - cursor) scanChunk)).contains 0 = true
        · rw [if_pos found, if_pos found]
          refine ⟨?_, ?_, rfl⟩
          · intro request member
            rw [List.mem_singleton.mp member]
            exact within
          · simp only [List.map_singleton, List.sum_singleton]
            omega
        · rw [if_neg found, if_neg found]
          obtain ⟨laterWithin, once, same⟩ := inductionHypothesis
            (memory.size -
              (cursor + min (memory.size - cursor) scanChunk))
            (by omega) _ rfl
          refine ⟨?_, ?_, ?_⟩
          · intro request member
            rcases List.mem_cons.mp member with rfl | later
            · exact within
            · exact laterWithin request later
          · simp only [List.map_cons, List.sum_cons]
            omega
          · simp only [same]
      · rw [dif_neg inside, dif_neg inside]
        refine ⟨?_, Nat.zero_le _, rfl⟩
        intro request member
        cases member

/-! ## Texts -/

theorem readText_eq_decodeAt {pointer length : UInt32}
    (checked : memory.checkSpan pointer length = .ok ()) :
    memory.readText pointer length =
      decodeAt pointer (memory.read pointer.toNat length.toNat) := by
  unfold readText
  by_cases empty : length = 0
  · subst empty
    exact ((decodeAt_eq_ok_iff ..).mpr rfl).symm
  · rw [if_neg empty, checked]

theorem FirstZero.readCText {pointer : UInt32} {length : Nat}
    (first : memory.FirstZero pointer.toNat length) :
    memory.readCText pointer =
      decodeAt pointer (memory.read pointer.toNat length) := by
  rw [Memory.readCText, first.scan]

theorem isContract_fault (reason : SpanFault) :
    reason.fault.isContract = true := by
  cases reason with
  | overflow | outside | unterminated | notText =>
      rfl

/-- What the scan from a pointer on reads, and what the text there is. -/
structure ReadsToZero (memory : Memory) (pointer : UInt32) : Prop where
  /-- The reads of the scan are made inside the memory, with whole cursors. -/
  reads : ∀ request ∈ (memory.scanReads pointer pointer.toNat).1,
    request.Within memory
  once : ((memory.scanReads pointer pointer.toNat).1.map
    ChunkRead.length).sum ≤ memory.size - pointer.toNat
  scan : (memory.scanReads pointer pointer.toNat).2 =
    memory.scan pointer pointer.toNat
  ok_iff : ∀ text, memory.readCText pointer = .ok text ↔
    ∃ length, memory.FirstZero pointer.toNat length ∧
      Utf8.decode (memory.read pointer.toNat length) = .ok text
  refused : ∀ reason, memory.readCText pointer = .error reason →
    reason.fault.isContract = true
  /-- The length of the text need not be known to read it. -/
  same : ∀ length, memory.FirstZero pointer.toNat length →
    length < wordCount 32 ∧
      memory.readCText pointer = memory.readText pointer length.toUInt32

/-- In a memory of at most 4 GiB, the text before the first zero byte is read
wherever that byte lies, as it is read with its length. -/
theorem readsToZero (fits : memory.size ≤ wordCount 32) (pointer : UInt32) :
    memory.ReadsToZero pointer := by
  obtain ⟨reads, once, scan⟩ := scanReads_spec fits pointer pointer.toNat
  refine ⟨reads, once, scan, ?_, ?_, ?_⟩
  · intro text
    constructor
    · intro done
      rw [readCText] at done
      cases scanned : memory.scan pointer pointer.toNat with
      | error reason =>
          rw [scanned] at done
          cases done
      | ok bytes =>
          obtain ⟨length, first, rfl⟩ := (scan_eq_ok_iff ..).mp scanned
          rw [scanned] at done
          exact ⟨length, first, (mapError_eq_ok_iff ..).mp done⟩
    · rintro ⟨length, first, decoded⟩
      rw [first.readCText, decodeAt, mapError_eq_ok_iff]
      exact decoded
  · intro reason _
    exact isContract_fault reason
  · intro length first
    have inside := first.inside
    have small : length < wordCount 32 := by
      omega
    have checked : memory.checkSpan pointer length.toUInt32 = .ok () := by
      rw [checkSpan_eq_ok_iff, toNat_toUInt32 small]
      right
      omega
    refine ⟨small, ?_⟩
    rw [first.readCText, readText_eq_decodeAt checked, toNat_toUInt32 small]

/-- A memory of 4 GiB with nothing but the letter k before its last byte. -/
def fullMemory : Memory :=
  (Memory.new (wordCount 32) 107).set (wordCount 32 - 1) 0

theorem get_fullMemory (place : Nat) :
    fullMemory.get place = if wordCount 32 - 1 = place then 0 else 107 := by
  have letter : (Memory.new (wordCount 32) 107).get place = 107 := by
    simp [new, get]
  rw [fullMemory, get_set, letter]

/-- Its text of 1295 letters ends at the last byte, five chunks behind. -/
theorem firstZero_fullMemory : fullMemory.FirstZero 4294966000 1295 := by
  have last : wordCount 32 - 1 = 4294967295 := rfl
  constructor
  · decide
  · intro index small
    rw [get_fullMemory, last, if_neg (by omega)]
    decide
  · rw [get_fullMemory, last, if_pos rfl]

theorem readsToZero_fullMemory :
    fullMemory.size ≤ wordCount 32 ∧
      fullMemory.ReadsToZero 4294966000 ∧
      fullMemory.readCText 4294966000 =
        fullMemory.readText 4294966000 1295 :=
  ⟨le_rfl, readsToZero le_rfl 4294966000,
    ((readsToZero le_rfl 4294966000).same 1295 firstZero_fullMemory).2⟩

end KeymapViewer.Memory
