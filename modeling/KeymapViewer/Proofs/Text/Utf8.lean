import KeymapViewer.Text.Utf8
import Mathlib.Data.List.TakeWhile

/-!
What is written as UTF-8 is read back, nothing else is read without a fault,
and a zero byte in it is the character zero and nothing else.
-/

namespace KeymapViewer.Text

namespace Utf8

/-! ## One character -/

theorem toNat_toUInt8 {code : Nat} (small : code < 256) :
    code.toUInt8.toNat = code :=
  Nat.mod_eq_of_lt small

/-- The code points of characters leave out the surrogates. -/
theorem toNat_lt_or (c : Char) :
    c.toNat < 0xD800 ∨ 0xDFFF < c.toNat ∧ c.toNat < 0x110000 :=
  c.valid

theorem lead?_two {first : Nat} (low : 0xC2 ≤ first) (high : first ≤ 0xDF) :
    lead? first = some (1, 0x80, 0xBF) := by
  rw [lead?, if_pos ⟨low, high⟩]

/-- The second byte of three lies in the range that the first one allows:
there is no shorter form, and it is no surrogate. -/
theorem lead?_three {code : Nat} (low : 0x800 ≤ code) (high : code < 0x10000)
    (notSurrogate : code < 0xD800 ∨ 0xDFFF < code) :
    ∃ least greatest, lead? (0xE0 + code / 4096) = some (2, least, greatest) ∧
      least ≤ 0x80 + code / 64 % 64 ∧ 0x80 + code / 64 % 64 ≤ greatest := by
  unfold lead?
  rw [if_neg (by omega)]
  by_cases shortest : code < 0x1000
  · exact ⟨0xA0, 0xBF, if_pos (by omega), by omega, by omega⟩
  rw [if_neg (by omega)]
  by_cases beforeSurrogates : 0xD000 ≤ code ∧ code < 0xE000
  · exact ⟨0x80, 0x9F, if_pos (by omega), by omega, by omega⟩
  rw [if_neg (by omega)]
  exact ⟨0x80, 0xBF, if_pos (by omega), by omega, by omega⟩

/-- Likewise for four bytes, up to the last code point. -/
theorem lead?_four {code : Nat} (low : 0x10000 ≤ code)
    (high : code < 0x110000) :
    ∃ least greatest,
      lead? (0xF0 + code / 262144) = some (3, least, greatest) ∧
      least ≤ 0x80 + code / 4096 % 64 ∧
      0x80 + code / 4096 % 64 ≤ greatest := by
  unfold lead?
  rw [if_neg (by omega), if_neg (by omega), if_neg (by omega),
    if_neg (by omega)]
  by_cases shortest : code < 0x40000
  · exact ⟨0x90, 0xBF, if_pos (by omega), by omega, by omega⟩
  rw [if_neg (by omega)]
  by_cases last : code < 0x100000
  · exact ⟨0x80, 0xBF, if_pos (by omega), by omega, by omega⟩
  · exact ⟨0x80, 0x8F, by rw [if_neg (by omega), if_pos (by omega)],
      by omega, by omega⟩

theorem follow_cons {code seen low high owed byte : Nat} {rest : Bytes}
    (small : byte < 256) (inRange : low ≤ byte ∧ byte ≤ high) :
    follow code seen low high (owed + 1) (byte.toUInt8 :: rest) =
      follow (code * 64 + byte % 64) (seen + 1) 0x80 0xBF owed rest := by
  rw [follow, toNat_toUInt8 small, if_pos inRange]

/-- The bytes of a character are read as that character, whatever comes after
them. -/
theorem piece_encodeChar (c : Char) (rest : Bytes) :
    ∃ first more, encodeChar c = first :: more ∧
      piece first (more ++ rest) = .char c (more.length + 1) := by
  have valid := toNat_lt_or c
  unfold encodeChar
  generalize codeEq : c.toNat = code at valid
  have same : Char.ofNat code = c := by rw [← codeEq, Char.ofNat_toNat]
  simp only
  by_cases one : code < 0x80
  · rw [if_pos one]
    refine ⟨_, [], rfl, ?_⟩
    rw [piece, toNat_toUInt8 (by omega), if_pos one, same]
    rfl
  rw [if_neg one]
  by_cases two : code < 0x800
  · rw [if_pos two]
    refine ⟨_, _, rfl, ?_⟩
    rw [piece, toNat_toUInt8 (by omega), if_neg (by omega),
      lead?_two (by omega) (by omega)]
    simp only [List.cons_append, List.nil_append]
    rw [follow_cons (by omega) (by omega), follow]
    rw [← same]
    congr 2
    rw [if_pos trivial]
    omega
  rw [if_neg two]
  by_cases three : code < 0x10000
  · rw [if_pos three]
    refine ⟨_, _, rfl, ?_⟩
    obtain ⟨least, greatest, lead, above, below⟩ :=
      lead?_three (by omega) three (by omega)
    rw [piece, toNat_toUInt8 (by omega), if_neg (by omega), lead]
    simp only [List.cons_append, List.nil_append]
    rw [follow_cons (by omega) ⟨above, below⟩,
      follow_cons (by omega) (by omega), follow]
    rw [← same]
    congr 2
    rw [if_neg (by decide), if_pos trivial]
    omega
  · rw [if_neg three]
    refine ⟨_, _, rfl, ?_⟩
    obtain ⟨least, greatest, lead, above, below⟩ :=
      lead?_four (Nat.le_of_not_lt three) (by omega)
    rw [piece, toNat_toUInt8 (by omega), if_neg (by omega), lead]
    simp only [List.cons_append, List.nil_append]
    rw [follow_cons (by omega) ⟨above, below⟩,
      follow_cons (by omega) (by omega), follow_cons (by omega) (by omega),
      follow]
    rw [← same]
    congr 2
    rw [if_neg (by decide), if_neg (by decide)]
    omega

/-! ## Texts -/

theorem encodeChars_cons (c : Char) (rest : List Char) :
    encodeChars (c :: rest) = encodeChar c ++ encodeChars rest :=
  List.flatMap_cons

theorem encodeChars_append (text rest : List Char) :
    encodeChars (text ++ rest) = encodeChars text ++ encodeChars rest :=
  List.flatMap_append

theorem pieces_encodeChars (text : List Char) :
    pieces (encodeChars text) =
      text.map fun c => .char c (encodeChar c).length := by
  induction text with
  | nil =>
      rw [encodeChars, List.flatMap_nil, pieces, List.map_nil]
  | cons c rest inductionHypothesis =>
      obtain ⟨first, more, encoded, read⟩ :=
        piece_encodeChar c (encodeChars rest)
      rw [encodeChars_cons, List.map_cons, encoded, List.cons_append, pieces,
        read, List.length_cons]
      simp only [Piece.length, Nat.add_sub_cancel, List.drop_left]
      rw [inductionHypothesis]

theorem assemble_chars (text : List Char) (length : Char → Nat)
    (index : Nat) :
    assemble index (text.map fun c => .char c (length c)) = .ok text := by
  induction text generalizing index with
  | nil =>
      rfl
  | cons c rest inductionHypothesis =>
      rw [List.map_cons, assemble, inductionHypothesis]

/-- Texts come back from their bytes. -/
theorem decode_encode (text : String) : decode (encode text) = .ok text := by
  rw [decode, encode, pieces_encodeChars,
    assemble_chars text.toList (fun c => (encodeChar c).length)]
  simp [Except.map]

/-- No character begins with all the bytes of another one, so texts begin alike
where their bytes do. -/
theorem exists_of_encodeChars_eq_append {first text : List Char}
    {bytes : Bytes} (starts : encodeChars text = encodeChars first ++ bytes) :
    ∃ rest, text = first ++ rest ∧ encodeChars rest = bytes := by
  induction first generalizing text with
  | nil =>
      exact ⟨text, rfl, starts⟩
  | cons c others inductionHypothesis =>
      obtain ⟨lead, more, encoded, read⟩ :=
        piece_encodeChar c (encodeChars others ++ bytes)
      rw [encodeChars_cons, encoded, List.append_assoc,
        List.cons_append] at starts
      cases text with
      | nil =>
          cases starts
      | cons d rest =>
          obtain ⟨leadOther, moreOther, encodedOther, readOther⟩ :=
            piece_encodeChar d (encodeChars rest)
          rw [encodeChars_cons, encodedOther, List.cons_append,
            List.cons.injEq] at starts
          obtain ⟨rfl, same⟩ := starts
          rw [same, read, Piece.char.injEq] at readOther
          obtain ⟨rfl, -⟩ := readOther
          obtain rfl : more = moreOther := by
            rw [encoded] at encodedOther
            exact List.tail_eq_of_cons_eq encodedOther
          obtain ⟨after, rfl, bytesAfter⟩ :=
            inductionHypothesis (List.append_cancel_left same)
          exact ⟨after, rfl, bytesAfter⟩

/-! ## Bytes that are read -/

theorem toNat_ofNat {code : Nat} (valid : code.isValidChar) :
    (Char.ofNat code).toNat = code := by
  rw [Char.ofNat, dif_pos valid]
  rfl

theorem toUInt8_eq {code : Nat} {byte : UInt8} (same : code = byte.toNat) :
    code.toUInt8 = byte := by
  subst same
  simp

/-- What the first byte of a character says of the others: there is no
shorter form, and it is no surrogate and not beyond the last code point. -/
theorem lead?_cases {first owed low high : Nat}
    (lead : lead? first = some (owed, low, high)) :
    (owed = 1 ∧ 0xC2 ≤ first ∧ first ≤ 0xDF ∧ low = 0x80 ∧ high = 0xBF) ∨
      (owed = 2 ∧ 0xE0 ≤ first ∧ first ≤ 0xEF ∧ 0x80 ≤ low ∧ high ≤ 0xBF ∧
        (first = 0xE0 → 0xA0 ≤ low) ∧ (first = 0xED → high ≤ 0x9F)) ∨
      (owed = 3 ∧ 0xF0 ≤ first ∧ first ≤ 0xF4 ∧ 0x80 ≤ low ∧ high ≤ 0xBF ∧
        (first = 0xF0 → 0x90 ≤ low) ∧ (first = 0xF4 → high ≤ 0x8F)) := by
  unfold lead? at lead
  repeat' split at lead
  all_goals
    cases lead
  all_goals
    omega

theorem follow_eq_char {code seen low high owed length : Nat}
    {bytes : Bytes} {c : Char}
    (read : follow code seen low high (owed + 1) bytes = .char c length) :
    ∃ byte rest, bytes = byte :: rest ∧
      (low ≤ byte.toNat ∧ byte.toNat ≤ high) ∧
      follow (code * 64 + byte.toNat % 64) (seen + 1) 0x80 0xBF owed rest =
        .char c length := by
  cases bytes with
  | nil =>
      cases read
  | cons byte rest =>
      rw [follow] at read
      split at read
      · exact ⟨byte, rest, rfl, ‹_›, read⟩
      · cases read

/-- What is read as a character is how that character is written. -/
theorem encodeChar_of_piece {first : UInt8} {rest : Bytes} {c : Char}
    {length : Nat} (read : piece first rest = .char c length) :
    encodeChar c ++ rest.drop (length - 1) = first :: rest := by
  have small := first.toNat_lt
  unfold piece at read
  simp only at read
  split at read
  · rename_i ascii
    cases read
    have valid : first.toNat.isValidChar := .inl (by omega)
    rw [encodeChar, toNat_ofNat valid]
    simp [ascii]
  split at read
  · cases read
  rename_i owed low high lead
  rcases lead?_cases lead with ⟨rfl, least, greatest, rfl, rfl⟩ |
    ⟨rfl, least, greatest, lowest, highest, shortest, surrogates⟩ |
    ⟨rfl, least, greatest, lowest, highest, shortest, last⟩
  · obtain ⟨second, after, rfl, inRange, done⟩ := follow_eq_char read
    rw [if_pos rfl, follow] at done
    cases done
    have valid : (first.toNat % 32 * 64 + second.toNat % 64).isValidChar :=
      .inl (by omega)
    rw [encodeChar, toNat_ofNat valid, if_neg (by omega),
      if_pos (by omega), toUInt8_eq (show _ = first.toNat by omega),
      toUInt8_eq (show _ = second.toNat by omega)]
    rfl
  · obtain ⟨second, between, rfl, inRange, more⟩ := follow_eq_char read
    obtain ⟨third, after, rfl, inRangeThird, done⟩ := follow_eq_char more
    rw [if_neg (by decide), if_pos rfl, follow] at done
    cases done
    have valid : ((first.toNat % 16 * 64 + second.toNat % 64) * 64 +
        third.toNat % 64).isValidChar := by
      unfold Nat.isValidChar
      omega
    rw [encodeChar, toNat_ofNat valid, if_neg (by omega), if_neg (by omega),
      if_pos (by omega), toUInt8_eq (show _ = first.toNat by omega),
      toUInt8_eq (show _ = second.toNat by omega),
      toUInt8_eq (show _ = third.toNat by omega)]
    rfl
  · obtain ⟨second, between, rfl, inRange, more⟩ := follow_eq_char read
    obtain ⟨third, others, rfl, inRangeThird, moreYet⟩ := follow_eq_char more
    obtain ⟨fourth, after, rfl, inRangeFourth, done⟩ :=
      follow_eq_char moreYet
    rw [if_neg (by decide), if_neg (by decide), follow] at done
    cases done
    have valid : (((first.toNat % 8 * 64 + second.toNat % 64) * 64 +
        third.toNat % 64) * 64 + fourth.toNat % 64).isValidChar := by
      unfold Nat.isValidChar
      omega
    rw [encodeChar, toNat_ofNat valid, if_neg (by omega), if_neg (by omega),
      if_neg (by omega), toUInt8_eq (show _ = first.toNat by omega),
      toUInt8_eq (show _ = second.toNat by omega),
      toUInt8_eq (show _ = third.toNat by omega),
      toUInt8_eq (show _ = fourth.toNat by omega)]
    rfl

theorem encodeChars_of_assemble {bytes : Bytes} {index : Nat}
    {text : List Char} (whole : assemble index (pieces bytes) = .ok text) :
    encodeChars text = bytes := by
  fun_induction pieces bytes generalizing index text with
  | case1 =>
      cases whole
      rfl
  | case2 first rest head =>
      rename_i inductionHypothesis
      cases read : head with
      | char c length =>
          rw [read] at whole inductionHypothesis
          rw [assemble] at whole
          rw [Piece.length] at whole inductionHypothesis
          cases others : assemble (index + length)
              (pieces (rest.drop (length - 1))) with
          | error fault =>
              rw [others] at whole
              cases whole
          | ok after =>
              rw [others] at whole
              cases whole
              rw [encodeChars_cons, inductionHypothesis others,
                encodeChar_of_piece read]
      | stray length =>
          rw [read] at whole
          cases whole
      | cutOff length =>
          rw [read] at whole
          cases whole

/-- The bytes that are a text are those that it is written with. -/
theorem decode_eq_ok_iff (bytes : Bytes) (text : String) :
    decode bytes = .ok text ↔ encode text = bytes := by
  constructor
  · intro read
    unfold decode at read
    cases whole : assemble 0 (pieces bytes) with
    | error fault =>
        rw [whole] at read
        cases read
    | ok characters =>
        rw [whole] at read
        cases read
        rw [encode, String.toList_ofList, encodeChars_of_assemble whole]
  · rintro rfl
    exact decode_encode text

theorem decode?_eq_some_iff {bytes : Bytes} {text : String} :
    decode? bytes = some text ↔ encode text = bytes := by
  rw [← decode_eq_ok_iff, decode?]
  cases decode bytes with
  | error fault =>
      simp [Except.toOption]
  | ok other =>
      simp [Except.toOption]

/-! ## Lenient reading -/

/-- The lenient reader reads texts as they are written. -/
theorem decodeLenient_encode (text : String) :
    decodeLenient (encode text) = text := by
  rw [decodeLenient, encode, pieces_encodeChars, List.map_map]
  exact (congrArg String.ofList (List.map_id _)).trans String.ofList_toList

/-! ## Bytes that are characters -/

theorem encodeChar_of_lt {c : Char} (ascii : c.toNat < 0x80) :
    encodeChar c = [c.toNat.toUInt8] := by
  rw [encodeChar]
  exact if_pos ascii

/-- A byte that is a character of its own is no part of another one. -/
theorem toNat_eq_of_mem_encodeChar {c : Char} {byte : UInt8}
    (member : byte ∈ encodeChar c) (ascii : byte.toNat < 0x80) :
    c.toNat = byte.toNat := by
  have valid := toNat_lt_or c
  have high {code : Nat} (least : 0x80 ≤ code) (small : code < 256) :
      byte ≠ code.toUInt8 := by
    rintro rfl
    rw [toNat_toUInt8 small] at ascii
    omega
  unfold encodeChar at member
  generalize c.toNat = code at valid member ⊢
  simp only at member
  split_ifs at member with one two three
  all_goals
    simp only [List.mem_cons, List.not_mem_nil, or_false] at member
  · rw [member, toNat_toUInt8 (by omega)]
  · rcases member with lead | last
    · exact absurd lead (high (by omega) (by omega))
    · exact absurd last (high (by omega) (by omega))
  · rcases member with lead | second | last
    · exact absurd lead (high (by omega) (by omega))
    · exact absurd second (high (by omega) (by omega))
    · exact absurd last (high (by omega) (by omega))
  · rcases member with lead | second | third | last
    · exact absurd lead (high (by omega) (by omega))
    · exact absurd second (high (by omega) (by omega))
    · exact absurd third (high (by omega) (by omega))
    · exact absurd last (high (by omega) (by omega))

theorem zero_notMem_encodeChar {c : Char} (notNul : c ≠ Char.ofNat 0) :
    0 ∉ encodeChar c := by
  intro member
  have zero : c.toNat = 0 := toNat_eq_of_mem_encodeChar member (by decide)
  exact notNul (by rw [← zero, Char.ofNat_toNat])

end Utf8

/-- A text up to its first character zero. -/
def upToNul (text : String) : String :=
  String.ofList (text.toList.takeWhile (· != Char.ofNat 0))

theorem upToNul_of_notMem {text : String}
    (noNul : Char.ofNat 0 ∉ text.toList) : upToNul text = text := by
  have whole : text.toList.takeWhile (· != Char.ofNat 0) = text.toList :=
    List.takeWhile_eq_self_iff.mpr fun c member => by
      rw [bne_iff_ne]
      rintro rfl
      exact noNul member
  rw [upToNul, whole, String.ofList_toList]

theorem notMem_upToNul (text : String) :
    Char.ofNat 0 ∉ (upToNul text).toList := by
  rw [upToNul, String.toList_ofList]
  intro member
  have kept := List.mem_takeWhile_imp member
  simp at kept

namespace Utf8

theorem zero_notMem_encode {text : String}
    (noNul : Char.ofNat 0 ∉ text.toList) : 0 ∉ encode text := by
  intro member
  obtain ⟨c, inText, inBytes⟩ := List.mem_flatMap.mp member
  exact zero_notMem_encodeChar (fun nul => noNul (nul ▸ inText)) inBytes

theorem encodeChars_append_zero (text : List Char) :
    ∃ rest, encodeChars text ++ [0] =
      encodeChars (text.takeWhile (· != Char.ofNat 0)) ++ 0 :: rest := by
  induction text with
  | nil =>
      exact ⟨[], rfl⟩
  | cons c others inductionHypothesis =>
      obtain ⟨rest, same⟩ := inductionHypothesis
      by_cases nul : c = Char.ofNat 0
      · subst nul
        exact ⟨encodeChars others ++ [0], rfl⟩
      · refine ⟨rest, ?_⟩
        rw [List.takeWhile_cons_of_pos (by simpa using nul), encodeChars_cons,
          encodeChars_cons, List.append_assoc, List.append_assoc, same]

/-- The first zero byte, in a text or after it, ends the characters before
the first character zero. -/
theorem encode_append_zero (text : String) :
    ∃ rest, encode text ++ [0] = encode (upToNul text) ++ 0 :: rest := by
  rw [encode, encode, upToNul, String.toList_ofList]
  exact encodeChars_append_zero text.toList

end Utf8

theorem byteLength_upToNul_le (text : String) :
    byteLength (upToNul text) ≤ byteLength text := by
  obtain ⟨rest, same⟩ := Utf8.encode_append_zero text
  have lengths := congrArg List.length same
  rw [List.length_append, List.length_append, List.length_singleton,
    List.length_cons] at lengths
  unfold byteLength
  omega

end KeymapViewer.Text
