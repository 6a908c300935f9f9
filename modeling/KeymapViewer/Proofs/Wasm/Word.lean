import KeymapViewer.Wasm.Machine
import KeymapViewer.Word
import Mathlib.Data.Nat.Bitwise

/-!
Numbers as 32-bit words. Sums and products agree with those of the words
whatever they come to; comparisons and quotients do below `2 ^ 32`.
-/

namespace KeymapViewer.Wasm

theorem wordCount_word : wordCount 32 = 4294967296 := by decide

theorem toNat_toUInt32 {n : Nat} (small : n < wordCount 32) :
    n.toUInt32.toNat = n :=
  Nat.mod_eq_of_lt small

theorem toNat_toUInt32_eq_mod (n : Nat) :
    n.toUInt32.toNat = n % 4294967296 :=
  rfl

theorem toUInt32_toNat (word : UInt32) : word.toNat.toUInt32 = word :=
  UInt32.ofNat_toNat

theorem toUInt32_add (first second : Nat) :
    (first + second).toUInt32 = first.toUInt32 + second.toUInt32 :=
  UInt32.ofNat_add ..

theorem toUInt32_lt_iff {first second : Nat} (smallFirst : first < wordCount 32)
    (smallSecond : second < wordCount 32) :
    first.toUInt32 < second.toUInt32 ↔ first < second := by
  rw [UInt32.lt_iff_toNat_lt, toNat_toUInt32 smallFirst,
    toNat_toUInt32 smallSecond]

theorem toUInt32_ne_zero {n : Nat} (small : n < wordCount 32)
    (positive : 0 < n) : n.toUInt32 ≠ 0 := by
  intro zero
  have same := congrArg UInt32.toNat zero
  rw [toNat_toUInt32 small] at same
  exact positive.ne' same

theorem toUInt32_sub {first second : Nat} (le : second ≤ first) :
    first.toUInt32 - second.toUInt32 = (first - second).toUInt32 := by
  obtain ⟨rest, rfl⟩ := Nat.exists_eq_add_of_le le
  rw [toUInt32_add, Nat.add_sub_cancel_left, UInt32.add_comm,
    UInt32.add_sub_cancel]

theorem toUInt32_shiftLeft (n : Nat) :
    n.toUInt32 <<< (16 % 32) = (n * 65536).toUInt32 := by
  have amount : (16 % 32 : UInt32).toNat % 32 = 16 := by decide
  rw [← UInt32.toNat_inj, UInt32.toNat_shiftLeft, amount, Nat.shiftLeft_eq,
    toNat_toUInt32_eq_mod, toNat_toUInt32_eq_mod]
  omega

theorem toUInt32_shiftRight {n : Nat} (small : n < wordCount 32) :
    n.toUInt32 >>> (16 % 32) = (n / 65536).toUInt32 := by
  rw [← UInt32.toNat_inj, UInt32.toNat_shiftRight, toNat_toUInt32 small,
    toNat_toUInt32 (Nat.lt_of_le_of_lt (Nat.div_le_self ..) small)]
  change n >>> 16 = _
  rw [Nat.shiftRight_eq_div_pow]

/-- Without its three lowest bits a word is the multiple of eight below it. -/
theorem and_neg_eight (word : UInt32) :
    word &&& (-8) = (word.toNat / 8 * 8).toUInt32 := by
  have small : word.toNat / 8 * 8 < wordCount 32 :=
    Nat.lt_of_le_of_lt (Nat.div_mul_le_self ..) word.toNat_lt
  rw [← UInt32.toNat_inj, UInt32.toNat_and, toNat_toUInt32 small]
  change word.toNat &&& (2 ^ 29 - 1) * 2 ^ 3 = word.toNat / 2 ^ 3 * 2 ^ 3
  refine Nat.eq_of_testBit_eq fun bit => ?_
  rw [Nat.testBit_and, Nat.testBit_mul_two_pow, Nat.testBit_mul_two_pow,
    Nat.testBit_two_pow_sub_one, Nat.testBit_div_two_pow]
  by_cases low : 3 ≤ bit
  · have back : bit - 3 + 3 = bit := by omega
    rw [back]
    by_cases high : bit - 3 < 29
    · simp [low, high]
    · have zero : word.toNat.testBit bit = false :=
        Nat.testBit_lt_two_pow (Nat.lt_of_lt_of_le word.toNat_lt
          (Nat.pow_le_pow_right (by decide) (by omega)))
      simp [zero]
  · simp [low]

end KeymapViewer.Wasm
