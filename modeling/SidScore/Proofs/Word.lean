import Mathlib.Data.Nat.Bitwise
import SidScore.Word

/-!
# Words as numbers

Rules of the machine are stated about words, rules of a file about the numbers that its bytes
spell.  These lemmas carry the one over to the other.
-/

namespace SidScore

/-- Two numbers that share no bit are joined by adding them. -/
lemma shiftLeft_or (high : ℕ) {low places : ℕ} (h : low < 2 ^ places) :
    high <<< places ||| low = high * 2 ^ places + low := by
  rw [← Nat.shiftLeft_add_eq_or_of_lt h, Nat.shiftLeft_eq]

/-- A word is its high byte times 256 and its low byte. -/
lemma toNat_wordOf (low high : UInt8) :
    (wordOf low high).toNat = high.toNat * 256 + low.toNat := by
  have bound := high.toNat_lt
  have fits : (high.toUInt16 <<< 8).toNat = high.toNat <<< 8 := by
    have places : UInt16.toNat 8 % 16 = 8 := rfl
    have shifted : high.toNat <<< 8 = high.toNat * 256 := Nat.shiftLeft_eq _ _
    rw [UInt16.toNat_shiftLeft, UInt8.toNat_toUInt16, places]
    exact Nat.mod_eq_of_lt (by omega)
  rw [wordOf, UInt16.toNat_or, fits, UInt8.toNat_toUInt16]
  exact shiftLeft_or high.toNat low.toNat_lt

/-- A double word is its high word times 65536 and its low word. -/
lemma toNat_longOf (low high : UInt16) :
    ((high.toUInt32 <<< 16) ||| low.toUInt32).toNat = high.toNat * 65536 + low.toNat := by
  have bound := high.toNat_lt
  have fits : (high.toUInt32 <<< 16).toNat = high.toNat <<< 16 := by
    have places : UInt32.toNat 16 % 32 = 16 := rfl
    have shifted : high.toNat <<< 16 = high.toNat * 65536 := Nat.shiftLeft_eq _ _
    rw [UInt32.toNat_shiftLeft, UInt16.toNat_toUInt32, places]
    exact Nat.mod_eq_of_lt (by omega)
  rw [UInt32.toNat_or, fits, UInt16.toNat_toUInt32]
  exact shiftLeft_or high.toNat low.toNat_lt

/-! ## The bytes of a word -/

lemma toNat_highByte (w : UInt16) : (highByte w).toNat = w.toNat / 256 := by
  have bound := w.toNat_lt
  have shifted : w.toNat >>> 8 = w.toNat / 256 := Nat.shiftRight_eq_div_pow _ 8
  have places : UInt16.toNat 8 % 16 = 8 := rfl
  rw [highByte, UInt16.toNat_toUInt8, UInt16.toNat_shiftRight, places, shifted]
  omega

lemma toNat_lowByte (w : UInt16) : (lowByte w).toNat = w.toNat % 256 :=
  UInt16.toNat_toUInt8 w

@[simp] lemma highByte_wordOf (low high : UInt8) : highByte (wordOf low high) = high := by
  have bound := low.toNat_lt
  rw [← UInt8.toNat_inj, toNat_highByte, toNat_wordOf]
  omega

@[simp] lemma lowByte_wordOf (low high : UInt8) : lowByte (wordOf low high) = low := by
  have bound := low.toNat_lt
  rw [← UInt8.toNat_inj, toNat_lowByte, toNat_wordOf]
  omega

@[simp] lemma wordOf_lowByte_highByte (w : UInt16) : wordOf (lowByte w) (highByte w) = w := by
  rw [← UInt16.toNat_inj, toNat_wordOf, toNat_highByte, toNat_lowByte]
  omega

lemma highWord_longOf (low high : UInt16) :
    (((high.toUInt32 <<< 16) ||| low.toUInt32) >>> 16).toUInt16 = high := by
  have hlow := low.toNat_lt
  have hhigh := high.toNat_lt
  have shifted (n : ℕ) : n >>> 16 = n / 65536 := Nat.shiftRight_eq_div_pow n 16
  have places : UInt32.toNat 16 % 32 = 16 := rfl
  rw [← UInt16.toNat_inj, UInt32.toNat_toUInt16, UInt32.toNat_shiftRight, places, shifted,
    toNat_longOf]
  omega

lemma lowWord_longOf (low high : UInt16) :
    ((high.toUInt32 <<< 16) ||| low.toUInt32).toUInt16 = low := by
  have bound := low.toNat_lt
  rw [← UInt16.toNat_inj, UInt32.toNat_toUInt16, toNat_longOf]
  omega

/-! ## Pages -/

/-- The upper mask cuts a word down to the start of its page. -/
lemma toNat_and_highMask (w : UInt16) : (w &&& 0xFF00).toNat = w.toNat / 256 * 256 := by
  have mask : UInt16.toNat 0xFF00 = (2 ^ 8 - 1) * 2 ^ 8 := rfl
  have page : w.toNat / 256 * 256 = w.toNat / 2 ^ 8 * 2 ^ 8 := rfl
  rw [UInt16.toNat_and, mask, page]
  refine Nat.eq_of_testBit_eq fun i => ?_
  rw [Nat.testBit_and, Nat.testBit_mul_two_pow, Nat.testBit_mul_two_pow,
    Nat.testBit_two_pow_sub_one, Nat.testBit_div_two_pow]
  by_cases low : 8 ≤ i
  · rw [Nat.sub_add_cancel low]
    by_cases high : i < 16
    · have inside : i - 8 < 8 := by omega
      simp [low, inside]
    · have bound : w.toNat < 2 ^ i :=
        Nat.lt_of_lt_of_le w.toNat_lt (Nat.pow_le_pow_right (by decide) (by omega))
      simp [Nat.testBit_lt_two_pow bound]
  · simp [low]

lemma toNat_and_lowMask (w : UInt16) : (w &&& 0x00FF).toNat = w.toNat % 256 :=
  (UInt16.toNat_and _ _).trans (Nat.and_two_pow_sub_one_eq_mod w.toNat 8)

lemma samePage_iff (a b : UInt16) : samePage a b = true ↔ a.toNat / 256 = b.toNat / 256 := by
  rw [samePage, beq_iff_eq, ← UInt16.toNat_inj, toNat_and_highMask, toNat_and_highMask]
  omega

/-- The page of one word and the offset of another. -/
lemma toNat_page_or_offset (a b : UInt16) :
    ((a &&& 0xFF00) ||| (b &&& 0x00FF)).toNat = a.toNat / 256 * 256 + b.toNat % 256 := by
  have shifted : (a.toNat / 256) <<< 8 = a.toNat / 256 * 256 := Nat.shiftLeft_eq _ _
  have small : b.toNat % 256 < 2 ^ 8 := Nat.mod_lt _ (by decide)
  rw [UInt16.toNat_or, toNat_and_highMask, toNat_and_lowMask, ← shifted, shiftLeft_or _ small]
  exact congrArg (· + b.toNat % 256) shifted.symm

/-! ## All bytes -/

/-- What holds of the numbers below 256, read as bytes, holds of every byte. -/
lemma forall_byte {P : UInt8 → Prop} (h : ∀ n < 256, P (UInt8.ofNat n)) (byte : UInt8) :
    P byte := by
  have known := h byte.toNat byte.toNat_lt
  rwa [UInt8.ofNat_toNat] at known

/-! ## Signed bytes -/

/-- The number that a byte stands for where it is read as a signed one. -/
def signed (b : ℕ) : ℤ :=
  if b < 128 then b else b - 256

lemma toNat_add_signExtend (w : UInt16) (b : UInt8) :
    (w + signExtend b).toNat = ((w.toNat + signed b.toNat) % 65536).toNat := by
  have hb := b.toNat_lt
  have positive : b &&& 0x80 = 0 ↔ b.toNat < 128 :=
    forall_byte (P := fun b => b &&& 0x80 = 0 ↔ b.toNat < 128) (by decide +kernel) b
  rw [signExtend, signed, UInt16.toNat_add]
  by_cases small : b.toNat < 128
  · rw [if_pos (positive.mpr small), if_pos small, UInt8.toNat_toUInt16]
    omega
  · have widened : b.toUInt16 ||| 0xFF00 = wordOf b 0xFF := UInt16.or_comm _ _
    have top : UInt8.toNat 0xFF = 255 := rfl
    rw [if_neg (mt positive.mp small), if_neg small, widened, toNat_wordOf, top]
    omega

/-- A mask of one bit is contained in a word where the word's number has the bit. -/
lemma and_two_eq_two_iff (w : UInt16) : w &&& 2 = 2 ↔ w.toNat.testBit 1 = true := by
  rw [← UInt16.toNat_inj, UInt16.toNat_and]
  have mask : (2 : UInt16).toNat = 2 ^ 1 := rfl
  rw [mask, Nat.and_two_pow]
  cases w.toNat.testBit 1 <;> simp

end SidScore
