import KeymapViewer.Proofs.Text.Utf8
import KeymapViewer.Query
import Mathlib.Tactic.Common

/-!
Components with percent escapes. A component is a row of characters that stand
for themselves and of escapes that each stand for a byte. It is read exactly
when every percent sign begins an escape and the bytes of the whole row are
those of a text. The bytes are scanned with a cursor that takes one or three of
them at a time and does not look past the last one.
-/

namespace KeymapViewer.Query

open Text

/-! ## Digits -/

/-- A hexadecimal digit, in upper or in lower case. -/
def hexDigit (upper : Bool) (digit : Nat) : Char :=
  if digit < 10 then Char.ofNat (0x30 + digit)
  else if upper then Char.ofNat (0x41 + (digit - 10))
  else Char.ofNat (0x61 + (digit - 10))

def IsHexDigit (c : Char) : Prop :=
  ∃ upper, ∃ digit < 16, c = hexDigit upper digit

instance : DecidablePred IsHexDigit := fun c =>
  inferInstanceAs (Decidable (∃ upper, ∃ digit < 16, c = hexDigit upper digit))

theorem hexDigit_read (upper : Bool) {digit : Nat} (small : digit < 16) :
    (hexDigit upper digit).toNat < 0x80 ∧
      (hexDigit upper digit).isAlphanum = true ∧
      digitValue? (hexDigit upper digit) = some digit := by
  have all : ∀ upper : Bool, ∀ digit : Fin 16,
      (hexDigit upper digit).toNat < 0x80 ∧
        (hexDigit upper digit).isAlphanum = true ∧
        digitValue? (hexDigit upper digit) = some digit.val := by
    decide +kernel
  exact all upper ⟨digit, small⟩

theorem IsHexDigit.ascii {c : Char} (digit : IsHexDigit c) :
    c.toNat < 0x80 := by
  obtain ⟨upper, value, small, rfl⟩ := digit
  exact (hexDigit_read upper small).1

theorem IsHexDigit.isAlphanum {c : Char} (digit : IsHexDigit c) :
    c.isAlphanum = true := by
  obtain ⟨upper, value, small, rfl⟩ := digit
  exact (hexDigit_read upper small).2.1

theorem IsHexDigit.ne_percent {c : Char} (digit : IsHexDigit c) : c ≠ '%' := by
  rintro rfl
  exact absurd digit.isAlphanum (by decide)

/-- No other characters have a value that is as small. -/
theorem exists_hexDigit_of_digitValue? {c : Char} {digit : Nat}
    (read : digitValue? c = some digit) (small : digit < 16) :
    ∃ upper, c = hexDigit upper digit := by
  have same {code : Nat} (known : c.toNat = code) : c = Char.ofNat code := by
    rw [← known, Char.ofNat_toNat]
  unfold digitValue? at read
  split_ifs at read with decimal lower upper
  · have range : 48 ≤ c.toNat ∧ c.toNat ≤ 57 := by
      simpa [UInt32.le_iff_toNat_le] using Bool.and_eq_true_iff.mp decimal
    have value : c.toNat - 48 = digit := Option.some.inj read
    refine ⟨true, ?_⟩
    rw [hexDigit, if_pos (by omega)]
    exact same (by omega)
  · have range : 97 ≤ c.toNat ∧ c.toNat ≤ 122 := by
      simpa [UInt32.le_iff_toNat_le] using Bool.and_eq_true_iff.mp lower
    have value : c.toNat - 97 + 10 = digit := Option.some.inj read
    refine ⟨false, ?_⟩
    rw [hexDigit, if_neg (by omega), if_neg Bool.false_ne_true]
    exact same (by omega)
  · have range : 65 ≤ c.toNat ∧ c.toNat ≤ 90 := by
      simpa [UInt32.le_iff_toNat_le] using of_decide_eq_true upper
    have value : c.toNat - 65 + 10 = digit := Option.some.inj read
    refine ⟨true, ?_⟩
    rw [hexDigit, if_neg (by omega), if_pos rfl]
    exact same (by omega)

theorem filter_digitValue?_eq_some_iff {c : Char} {digit : Nat} :
    (digitValue? c).filter (· < 16) = some digit ↔
      digit < 16 ∧ ∃ upper, c = hexDigit upper digit := by
  rw [Option.filter_eq_some_iff, decide_eq_true_eq]
  constructor
  · rintro ⟨read, small⟩
    exact ⟨small, exists_hexDigit_of_digitValue? read small⟩
  · rintro ⟨small, upper, rfl⟩
    obtain ⟨-, -, read⟩ := hexDigit_read upper small
    exact ⟨read, small⟩

/-- A numeral of two digits; none of them is a sign. -/
theorem readNat?_hexDigits (upperHigh upperLow : Bool) {first second : Nat}
    (smallFirst : first < 16) (smallSecond : second < 16) :
    readNat? 16 (wordCount 8)
      [hexDigit upperHigh first, hexDigit upperLow second] =
      some (first * 16 + second) := by
  obtain ⟨-, -, high⟩ := hexDigit_read upperHigh smallFirst
  obtain ⟨-, -, low⟩ := hexDigit_read upperLow smallSecond
  have fits : first * 16 + second < wordCount 8 :=
    show first * 16 + second < 256 by omega
  have value : digitsValue? 16 0
      [hexDigit upperHigh first, hexDigit upperLow second] =
      some (first * 16 + second) := by
    simp [digitsValue?, high, low, smallFirst, smallSecond]
  unfold readNat?
  split
  · rename_i same
    rw [List.cons.injEq] at same
    rw [same.1] at high
    cases high
  · simp only [List.isEmpty_cons, Bool.false_eq_true, ↓reduceIte, value,
      fits]

/-! ## Escapes -/

/-- The escape of a byte, each of its digits in its own case. -/
def escapeByte (upperHigh upperLow : Bool) (byte : UInt8) : List Char :=
  ['%', hexDigit upperHigh (byte.toNat / 16),
    hexDigit upperLow (byte.toNat % 16)]

theorem isHexDigit_high (upper : Bool) (byte : UInt8) :
    IsHexDigit (hexDigit upper (byte.toNat / 16)) := by
  have small := byte.toNat_lt
  exact ⟨upper, _, by omega, rfl⟩

theorem isHexDigit_low (upper : Bool) (byte : UInt8) :
    IsHexDigit (hexDigit upper (byte.toNat % 16)) :=
  ⟨upper, _, Nat.mod_lt _ (by decide), rfl⟩

/-- Any two digits after a percent sign make an escape. -/
theorem escapeByte_eq_iff {upperHigh upperLow : Bool} {byte : UInt8}
    {high low : Char} :
    escapeByte upperHigh upperLow byte = ['%', high, low] ↔
      ∃ first < 16, ∃ second < 16, high = hexDigit upperHigh first ∧
        low = hexDigit upperLow second ∧
        (first * 16 + second).toUInt8 = byte := by
  have small := byte.toNat_lt
  constructor
  · intro same
    simp only [escapeByte, List.cons.injEq, and_true, true_and] at same
    refine ⟨byte.toNat / 16, by omega, byte.toNat % 16, by omega,
      same.1.symm, same.2.symm, ?_⟩
    exact Utf8.toUInt8_eq (by omega)
  · rintro ⟨first, smallFirst, second, smallSecond, rfl, rfl, rfl⟩
    rw [escapeByte, Utf8.toNat_toUInt8 (by omega),
      show (first * 16 + second) / 16 = first by omega,
      show (first * 16 + second) % 16 = second by omega]

/-- Two bytes are read as the byte whose escape has them as its digits. -/
theorem hexByte?_eq_some_iff {high low byte : UInt8} :
    hexByte? high low = some byte ↔
      ∃ upperHigh upperLow, escapeByte upperHigh upperLow byte =
        ['%', Char.ofNat high.toNat, Char.ofNat low.toNat] := by
  unfold hexByte?
  simp only
  constructor
  · intro read
    split at read
    · rename_i first second firstRead secondRead
      obtain ⟨smallFirst, upperHigh, highSame⟩ :=
        filter_digitValue?_eq_some_iff.mp firstRead
      obtain ⟨smallSecond, upperLow, lowSame⟩ :=
        filter_digitValue?_eq_some_iff.mp secondRead
      refine ⟨upperHigh, upperLow, escapeByte_eq_iff.mpr ?_⟩
      exact ⟨first, smallFirst, second, smallSecond, highSame, lowSame,
        Option.some.inj read⟩
    · cases read
  · rintro ⟨upperHigh, upperLow, same⟩
    obtain ⟨first, smallFirst, second, smallSecond, highSame, lowSame, rfl⟩ :=
      escapeByte_eq_iff.mp same
    simp only [
      filter_digitValue?_eq_some_iff.mpr ⟨smallFirst, upperHigh, highSame⟩,
      filter_digitValue?_eq_some_iff.mpr ⟨smallSecond, upperLow, lowSame⟩]

/-- The byte that two characters write as a numeral in base 16, once both are
known to be digits; a numeral alone might begin with a sign. -/
def readEscape? (high low : UInt8) : Option UInt8 :=
  let first := Char.ofNat high.toNat
  let second := Char.ofNat low.toNat
  if IsHexDigit first ∧ IsHexDigit second then
    (readNat? 16 (wordCount 8) [first, second]).map Nat.toUInt8
  else
    none

theorem readEscape?_eq_some_iff {high low byte : UInt8} :
    readEscape? high low = some byte ↔
      ∃ upperHigh upperLow, escapeByte upperHigh upperLow byte =
        ['%', Char.ofNat high.toNat, Char.ofNat low.toNat] := by
  unfold readEscape?
  simp only
  constructor
  · intro read
    split at read
    · rename_i digits
      obtain ⟨⟨upperHigh, first, smallFirst, highSame⟩, lowDigit⟩ := digits
      obtain ⟨upperLow, second, smallSecond, lowSame⟩ := lowDigit
      rw [highSame, lowSame,
        readNat?_hexDigits _ _ smallFirst smallSecond] at read
      refine ⟨upperHigh, upperLow, escapeByte_eq_iff.mpr ?_⟩
      exact ⟨first, smallFirst, second, smallSecond, highSame, lowSame,
        Option.some.inj read⟩
    · cases read
  · rintro ⟨upperHigh, upperLow, same⟩
    obtain ⟨first, smallFirst, second, smallSecond, highSame, lowSame, rfl⟩ :=
      escapeByte_eq_iff.mp same
    have highDigit : IsHexDigit (Char.ofNat high.toNat) :=
      ⟨upperHigh, first, smallFirst, highSame⟩
    have lowDigit : IsHexDigit (Char.ofNat low.toNat) :=
      ⟨upperLow, second, smallSecond, lowSame⟩
    rw [if_pos ⟨highDigit, lowDigit⟩, highSame, lowSame,
      readNat?_hexDigits _ _ smallFirst smallSecond, Option.map_some]

/-- The digits can be read one by one as well. -/
theorem readEscape?_eq (high low : UInt8) :
    readEscape? high low = hexByte? high low :=
  Option.ext fun _ => readEscape?_eq_some_iff.trans hexByte?_eq_some_iff.symm

theorem encodeChars_escapeByte (upperHigh upperLow : Bool) (byte : UInt8) :
    Utf8.encodeChars (escapeByte upperHigh upperLow byte) =
      [0x25, (hexDigit upperHigh (byte.toNat / 16)).toNat.toUInt8,
        (hexDigit upperLow (byte.toNat % 16)).toNat.toUInt8] := by
  rw [escapeByte, Utf8.encodeChars_cons, Utf8.encodeChars_cons,
    Utf8.encodeChars_cons,
    Utf8.encodeChar_of_lt (isHexDigit_high upperHigh byte).ascii,
    Utf8.encodeChar_of_lt (isHexDigit_low upperLow byte).ascii]
  rfl

theorem IsHexDigit.eq_ofNat_iff {c : Char} (digit : IsHexDigit c)
    {byte : UInt8} :
    c = Char.ofNat byte.toNat ↔ c.toNat.toUInt8 = byte := by
  have small := byte.toNat_lt
  have ascii := digit.ascii
  constructor
  · rintro rfl
    exact Utf8.toUInt8_eq (Utf8.toNat_ofNat (.inl (by omega)))
  · rintro rfl
    rw [Utf8.toNat_toUInt8 (by omega), Char.ofNat_toNat]

theorem hexByte?_eq_some_iff_encodeChars {high low byte : UInt8} :
    hexByte? high low = some byte ↔
      ∃ upperHigh upperLow,
        Utf8.encodeChars (escapeByte upperHigh upperLow byte) =
          [0x25, high, low] := by
  simp only [hexByte?_eq_some_iff, encodeChars_escapeByte]
  simp only [escapeByte, List.cons.injEq,
    (isHexDigit_high _ byte).eq_ofNat_iff,
    (isHexDigit_low _ byte).eq_ofNat_iff, true_and]

/-! ## Whole escapes -/

theorem length_escapeByte (upperHigh upperLow : Bool) (byte : UInt8) :
    (escapeByte upperHigh upperLow byte).length = 3 :=
  rfl

def StartsWithDigits (text : List Char) : Prop :=
  ∃ high low rest, text = high :: low :: rest ∧ IsHexDigit high ∧
    IsHexDigit low

/-- With two digits after it, a percent sign begins an escape. -/
theorem startsWithDigits_iff {text : List Char} :
    StartsWithDigits text ↔ ∃ upperHigh upperLow byte rest,
      '%' :: text = escapeByte upperHigh upperLow byte ++ rest := by
  constructor
  · rintro ⟨high, low, rest, rfl, highDigit, lowDigit⟩
    obtain ⟨upperHigh, first, smallFirst, highSame⟩ := highDigit
    obtain ⟨upperLow, second, smallSecond, lowSame⟩ := lowDigit
    have same : escapeByte upperHigh upperLow (first * 16 + second).toUInt8 =
        ['%', high, low] :=
      escapeByte_eq_iff.mpr
        ⟨first, smallFirst, second, smallSecond, highSame, lowSame, rfl⟩
    refine ⟨upperHigh, upperLow, (first * 16 + second).toUInt8, rest, ?_⟩
    rw [same]
    rfl
  · rintro ⟨upperHigh, upperLow, byte, rest, same⟩
    rw [escapeByte, List.cons_append, List.cons.injEq] at same
    exact ⟨_, _, rest, same.2, isHexDigit_high upperHigh byte,
      isHexDigit_low upperLow byte⟩

/-- Two digits come after every percent sign. As no digit is a percent sign,
none is taken up by the escape of an earlier one. -/
def IsWhole (component : List Char) : Prop :=
  ∀ after, '%' :: after <:+ component → StartsWithDigits after

theorem isWhole_nil : IsWhole [] := by
  intro after ends
  cases List.suffix_nil.mp ends

theorem isWhole_cons_iff {c : Char} {rest : List Char} :
    IsWhole (c :: rest) ↔
      (c = '%' → StartsWithDigits rest) ∧ IsWhole rest := by
  constructor
  · intro whole
    refine ⟨?_, fun after ends => ?_⟩
    · rintro rfl
      exact whole rest List.suffix_rfl
    · exact whole after (ends.trans (List.suffix_cons c rest))
  · rintro ⟨first, others⟩ after ends
    rcases List.suffix_cons_iff.mp ends with same | later
    · rw [List.cons.injEq] at same
      rw [same.2]
      exact first same.1.symm
    · exact others after later

theorem isWhole_cons_of_ne {c : Char} (other : c ≠ '%') {rest : List Char} :
    IsWhole (c :: rest) ↔ IsWhole rest := by
  rw [isWhole_cons_iff]
  exact and_iff_right fun same => absurd same other

theorem isWhole_escapeByte_append (upperHigh upperLow : Bool) (byte : UInt8)
    (component : List Char) :
    IsWhole (escapeByte upperHigh upperLow byte ++ component) ↔
      IsWhole component := by
  have high := isHexDigit_high upperHigh byte
  have low := isHexDigit_low upperLow byte
  rw [escapeByte, List.cons_append, List.cons_append, List.cons_append,
    List.nil_append, isWhole_cons_iff, isWhole_cons_of_ne high.ne_percent,
    isWhole_cons_of_ne low.ne_percent]
  apply and_iff_right
  intro _
  exact ⟨_, _, component, rfl, high, low⟩

/-- A component is empty, or begins with a character that stands for itself,
with an escape, or with a percent sign that begins none. -/
@[elab_as_elim]
theorem component_induction {motive : List Char → Prop} (nil : motive [])
    (literal : ∀ c rest, c ≠ '%' → motive rest → motive (c :: rest))
    (escape : ∀ upperHigh upperLow byte rest, motive rest →
      motive (escapeByte upperHigh upperLow byte ++ rest))
    (lone : ∀ rest, ¬ StartsWithDigits rest → motive ('%' :: rest))
    (component : List Char) : motive component := by
  -- An escape takes up three characters, so the induction is on the length.
  induction length : component.length using Nat.strong_induction_on
    generalizing component with
  | _ length inductionHypothesis =>
      subst length
      cases component with
      | nil =>
          exact nil
      | cons c rest =>
          by_cases percent : c = '%'
          · subst percent
            by_cases digits : StartsWithDigits rest
            · obtain ⟨upperHigh, upperLow, byte, later, same⟩ :=
                startsWithDigits_iff.mp digits
              rw [same]
              apply escape
              apply inductionHypothesis later.length _ later rfl
              rw [same, List.length_append, length_escapeByte]
              omega
            · exact lone rest digits
          · apply literal c rest percent
            exact inductionHypothesis rest.length (Nat.lt_succ_self _) rest
              rfl

/-! ## What components stand for -/

/-- The bytes that a component stands for: those of its characters, and for
each escape the byte that it writes. -/
inductive StandsFor : List Char → Bytes → Prop where
  | nil : StandsFor [] []
  | literal {c : Char} {component : List Char} {bytes : Bytes}
      (other : c ≠ '%') (rest : StandsFor component bytes) :
      StandsFor (c :: component) (Utf8.encodeChar c ++ bytes)
  | escape (upperHigh upperLow : Bool) (byte : UInt8)
      {component : List Char} {bytes : Bytes}
      (rest : StandsFor component bytes) :
      StandsFor (escapeByte upperHigh upperLow byte ++ component)
        (byte :: bytes)

theorem exists_standsFor_iff {component : List Char} :
    (∃ bytes, StandsFor component bytes) ↔ IsWhole component := by
  constructor
  · rintro ⟨bytes, stands⟩
    induction stands with
    | nil =>
        exact isWhole_nil
    | literal other rest inductionHypothesis =>
        exact (isWhole_cons_of_ne other).mpr inductionHypothesis
    | escape upperHigh upperLow byte rest inductionHypothesis =>
        exact (isWhole_escapeByte_append ..).mpr inductionHypothesis
  · intro whole
    induction component using component_induction with
    | nil =>
        exact ⟨[], .nil⟩
    | literal c rest other inductionHypothesis =>
        obtain ⟨bytes, stands⟩ :=
          inductionHypothesis ((isWhole_cons_of_ne other).mp whole)
        exact ⟨_, .literal other stands⟩
    | escape upperHigh upperLow byte rest inductionHypothesis =>
        obtain ⟨bytes, stands⟩ :=
          inductionHypothesis ((isWhole_escapeByte_append ..).mp whole)
        exact ⟨_, .escape upperHigh upperLow byte stands⟩
    | lone rest noDigits =>
        exact absurd ((isWhole_cons_iff.mp whole).1 rfl) noDigits

/-! ## Reading components -/

theorem percent_notMem_encodeChar {c : Char} (other : c ≠ '%') :
    0x25 ∉ Utf8.encodeChar c := by
  intro member
  have code : c.toNat = 0x25 :=
    Utf8.toNat_eq_of_mem_encodeChar member (by decide)
  apply other
  rw [← Char.ofNat_toNat c, code]

theorem unescape?_cons_of_ne {byte : UInt8} (other : byte ≠ 0x25)
    (rest : Bytes) :
    unescape? (byte :: rest) = (unescape? rest).map (byte :: ·) := by
  rw [unescape?.eq_3 _ _ fun _ _ _ same _ => other same, if_neg other]

theorem unescape?_percent (high low : UInt8) (rest : Bytes) :
    unescape? (0x25 :: high :: low :: rest) =
      (hexByte? high low).bind fun byte =>
        (unescape? rest).map (byte :: ·) := by
  rw [unescape?]
  cases hexByte? high low with
  | none =>
      rfl
  | some byte =>
      rfl

/-- An escape that is cut off is none. -/
theorem unescape?_percent_of_short {bytes : Bytes} (short : bytes.length < 2) :
    unescape? (0x25 :: bytes) = none := by
  match bytes with
  | [] =>
      rfl
  | [byte] =>
      rfl

/-- Bytes other than percent signs stand for themselves. -/
theorem unescape?_literals {bytes : Bytes} (noPercent : 0x25 ∉ bytes)
    (rest : Bytes) :
    unescape? (bytes ++ rest) = (unescape? rest).map (bytes ++ ·) := by
  induction bytes with
  | nil =>
      exact Option.map_id'.symm
  | cons byte others inductionHypothesis =>
      rw [List.mem_cons, not_or] at noPercent
      obtain ⟨differs, noPercent⟩ := noPercent
      rw [List.cons_append, unescape?_cons_of_ne (Ne.symm differs),
        inductionHypothesis noPercent, Option.map_map]
      rfl

theorem unescape?_encodeChar {c : Char} (other : c ≠ '%')
    (component : List Char) :
    unescape? (Utf8.encodeChars (c :: component)) =
      (unescape? (Utf8.encodeChars component)).map
        (Utf8.encodeChar c ++ ·) := by
  rw [Utf8.encodeChars_cons]
  exact unescape?_literals (percent_notMem_encodeChar other) _

theorem unescape?_escapeByte (upperHigh upperLow : Bool) (byte : UInt8)
    (component : List Char) :
    unescape? (Utf8.encodeChars
      (escapeByte upperHigh upperLow byte ++ component)) =
      (unescape? (Utf8.encodeChars component)).map (byte :: ·) := by
  have read := hexByte?_eq_some_iff_encodeChars.mpr
    ⟨upperHigh, upperLow, encodeChars_escapeByte upperHigh upperLow byte⟩
  rw [Utf8.encodeChars_append, encodeChars_escapeByte]
  simp only [List.cons_append, List.nil_append]
  rw [unescape?_percent, read, Option.bind_some]

/-- A percent sign is resolved only if two digits come after it, since the bytes
that are read as digits are characters of the component. -/
theorem startsWithDigits_of_unescape? {component : List Char} {result : Bytes}
    (resolved :
      unescape? (Utf8.encodeChars ('%' :: component)) = some result) :
    StartsWithDigits component := by
  have percent : Utf8.encodeChars ('%' :: component) =
      0x25 :: Utf8.encodeChars component :=
    rfl
  rw [percent] at resolved
  obtain ⟨high, low, later, bytes⟩ :
      ∃ high low later, Utf8.encodeChars component = high :: low :: later := by
    match bytes : Utf8.encodeChars component with
    | [] =>
        rw [bytes] at resolved
        cases resolved
    | [byte] =>
        rw [bytes] at resolved
        cases resolved
    | high :: low :: later =>
        exact ⟨high, low, later, rfl⟩
  rw [bytes, unescape?_percent] at resolved
  obtain ⟨byte, read, -⟩ := Option.bind_eq_some_iff.mp resolved
  obtain ⟨upperHigh, upperLow, digits⟩ :=
    hexByte?_eq_some_iff_encodeChars.mp read
  have starts : Utf8.encodeChars ('%' :: component) =
      Utf8.encodeChars (escapeByte upperHigh upperLow byte) ++ later := by
    rw [percent, bytes, digits]
    rfl
  obtain ⟨rest, same, -⟩ := Utf8.exists_of_encodeChars_eq_append starts
  exact startsWithDigits_iff.mpr ⟨upperHigh, upperLow, byte, rest, same⟩

/-- What the escapes of a component are resolved to is what it stands for. -/
theorem unescape?_eq_some_iff {component : List Char} {bytes : Bytes} :
    unescape? (Utf8.encodeChars component) = some bytes ↔
      StandsFor component bytes := by
  constructor
  · intro resolved
    induction component using component_induction generalizing bytes with
    | nil =>
        cases resolved
        exact .nil
    | literal c rest other inductionHypothesis =>
        rw [unescape?_encodeChar other] at resolved
        obtain ⟨others, later, rfl⟩ := Option.map_eq_some_iff.mp resolved
        exact .literal other (inductionHypothesis later)
    | escape upperHigh upperLow byte rest inductionHypothesis =>
        rw [unescape?_escapeByte] at resolved
        obtain ⟨others, later, rfl⟩ := Option.map_eq_some_iff.mp resolved
        exact .escape upperHigh upperLow byte (inductionHypothesis later)
    | lone rest noDigits =>
        exact absurd (startsWithDigits_of_unescape? resolved) noDigits
  · intro stands
    induction stands with
    | nil =>
        rfl
    | literal other rest inductionHypothesis =>
        rw [unescape?_encodeChar other, inductionHypothesis, Option.map_some]
    | escape upperHigh upperLow byte rest inductionHypothesis =>
        rw [unescape?_escapeByte, inductionHypothesis, Option.map_some]

theorem StandsFor.unique {component : List Char} {bytes others : Bytes}
    (stands : StandsFor component bytes)
    (standsOther : StandsFor component others) : bytes = others := by
  rw [← unescape?_eq_some_iff] at stands standsOther
  rw [stands] at standsOther
  exact Option.some.inj standsOther

/-- A component is read as the text whose bytes it stands for. -/
theorem decodeComponent_eq_ok_iff {component text : String} :
    decodeComponent component = .ok text ↔
      StandsFor component.toList (Utf8.encode text) := by
  rw [← unescape?_eq_some_iff, ← Utf8.encode]
  unfold decodeComponent
  constructor
  · intro done
    split at done
    · rename_i found resolved
      cases done
      obtain ⟨bytes, resolved, decoded⟩ := Option.bind_eq_some_iff.mp resolved
      rw [Utf8.decode?_eq_some_iff.mp decoded]
      exact resolved
    · cases done
  · intro resolved
    rw [resolved, Option.bind_some, Utf8.decode?_eq_some_iff.mpr rfl]

/-! ## The scan -/

/-- The scan with the places that it looks at, in their order. After a percent
sign it looks at two more if there are two. -/
def scanFrom (bytes : Bytes) (cursor : Nat) : List Nat × Option Bytes :=
  if _inside : cursor < bytes.length then
    let byte := bytes.getD cursor 0
    if byte = 0x25 then
      if cursor + 3 ≤ bytes.length then
        match readEscape? (bytes.getD (cursor + 1) 0)
            (bytes.getD (cursor + 2) 0) with
        | some escaped =>
          let (later, result) := scanFrom bytes (cursor + 3)
          ([cursor, cursor + 1, cursor + 2] ++ later,
            result.map (escaped :: ·))
        | none => ([cursor, cursor + 1, cursor + 2], none)
      else
        ([cursor], none)
    else
      let (later, result) := scanFrom bytes (cursor + 1)
      (cursor :: later, result.map (byte :: ·))
  else
    ([], some [])
termination_by bytes.length - cursor

theorem drop_eq_getD_cons {bytes : Bytes} {cursor : Nat}
    (inside : cursor < bytes.length) :
    bytes.drop cursor = bytes.getD cursor 0 :: bytes.drop (cursor + 1) := by
  rw [List.drop_eq_getElem_cons inside, List.getD_eq_getElem?_getD,
    List.getElem?_eq_getElem inside, Option.getD_some]

theorem drop_eq_window {bytes : Bytes} {cursor : Nat}
    (inside : cursor < bytes.length) (percent : bytes.getD cursor 0 = 0x25)
    (window : cursor + 3 ≤ bytes.length) :
    bytes.drop cursor = 0x25 :: bytes.getD (cursor + 1) 0 ::
      bytes.getD (cursor + 2) 0 :: bytes.drop (cursor + 3) := by
  rw [drop_eq_getD_cons inside, drop_eq_getD_cons (by omega),
    drop_eq_getD_cons (by omega), percent]

/-- The scan looks at the places from the cursor on, one after another, none of
them behind the last byte, and comes to what the escapes are resolved to. -/
theorem scanFrom_spec (bytes : Bytes) (cursor : Nat) :
    (∃ count ≤ bytes.length - cursor,
      (scanFrom bytes cursor).1 = List.range' cursor count) ∧
    (scanFrom bytes cursor).2 = unescape? (bytes.drop cursor) := by
  fun_induction scanFrom bytes cursor with
  | case1 cursor inside byte percent window escaped read later result rest
      inductionHypothesis =>
      rw [rest] at inductionHypothesis
      obtain ⟨⟨count, few, places⟩, same⟩ := inductionHypothesis
      simp only at places same
      refine ⟨⟨count + 3, by omega, ?_⟩, ?_⟩
      · simp only [places]
        rfl
      · rw [drop_eq_window inside percent window, unescape?_percent,
          ← readEscape?_eq, read, Option.bind_some, same]
  | case2 cursor inside byte percent window read =>
      refine ⟨⟨3, by omega, rfl⟩, ?_⟩
      rw [drop_eq_window inside percent window, unescape?_percent,
        ← readEscape?_eq, read, Option.bind_none]
  | case3 cursor inside byte percent window =>
      refine ⟨⟨1, by omega, rfl⟩, ?_⟩
      have short : (bytes.drop (cursor + 1)).length < 2 := by
        rw [List.length_drop]
        omega
      rw [drop_eq_getD_cons inside, show bytes.getD cursor 0 = 0x25 from percent,
        unescape?_percent_of_short short]
  | case4 cursor inside byte other later result rest inductionHypothesis =>
      rw [rest] at inductionHypothesis
      obtain ⟨⟨count, few, places⟩, same⟩ := inductionHypothesis
      simp only at places same
      refine ⟨⟨count + 1, by omega, ?_⟩, ?_⟩
      · simp only [places]
        rfl
      · rw [drop_eq_getD_cons inside, unescape?_cons_of_ne other, same]
  | case5 cursor outside =>
      refine ⟨⟨0, Nat.zero_le _, rfl⟩, ?_⟩
      rw [List.drop_eq_nil_of_le (Nat.le_of_not_lt outside)]
      rfl

/-! ## Components -/

/-- How a component is read, and what it is not read as. -/
structure ReadsComponent (component : String) : Prop where
  /-- The bytes are looked at in their order, and none that is not there. -/
  looks : ∃ count ≤ byteLength component,
    (scanFrom (Utf8.encode component) 0).1 = List.range count
  scan : (scanFrom (Utf8.encode component) 0).2 =
    unescape? (Utf8.encode component)
  whole_iff : (∃ bytes, StandsFor component.toList bytes) ↔
    IsWhole component.toList
  unique : ∀ bytes others, StandsFor component.toList bytes →
    StandsFor component.toList others → bytes = others
  ok_iff : ∀ text, decodeComponent component = .ok text ↔
    StandsFor component.toList (Utf8.encode text)
  refused : ∀ fault, decodeComponent component = .error fault →
    fault = malformed component ∧ fault.kind = .config

/-- A component is read exactly if two digits come after every percent sign and
the bytes that it stands for are those of a text. -/
theorem readsComponent (component : String) : ReadsComponent component := by
  obtain ⟨⟨count, few, places⟩, result⟩ :=
    scanFrom_spec (Utf8.encode component) 0
  constructor
  · refine ⟨count, few, ?_⟩
    rw [places, List.range_eq_range']
  · exact result
  · exact exists_standsFor_iff
  · intro bytes others stands standsOther
    exact stands.unique standsOther
  · intro text
    exact decodeComponent_eq_ok_iff
  · intro fault refused
    unfold decodeComponent at refused
    split at refused
    · cases refused
    · cases refused
      exact ⟨rfl, rfl⟩

/-- A sign is no digit, and an escape can be a part of a character. -/
example :
    decodeComponent "%+1" = .error (malformed "%+1") ∧
      decodeComponent "caf%c3%A9+x" = .ok "café+x" := by
  decide +kernel

end KeymapViewer.Query
