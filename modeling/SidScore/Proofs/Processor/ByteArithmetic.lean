import Mathlib.Tactic.Common
import SidScore.Processor.Arithmetic
import SidScore.Proofs.Word

/-!
# One byte added or subtracted

What the flags and the result of an addition or a subtraction of bytes say in numbers.  The carry
completes the result: with it in the next place, result and carry are the exact sum, and for a
difference result and borrow are the exact minuend.  That holds of binary bytes, and of bytes that
hold two decimal digits where the processor is in decimal mode.  Overflow says that the sum of the
signed bytes is no signed byte.

The flags of a subtraction are those of the binary difference in both modes, and without a borrow
coming in they are those of a comparison.
-/

namespace SidScore

/-! ## The sign of a byte -/

/-- Bit 7 of a byte. -/
def sign (b : UInt8) : Bool :=
  b.toNat.testBit 7

lemma and_signMask (b : UInt8) : (b &&& 0x80 != 0) = sign b :=
  forall_byte (P := fun b => (b &&& 0x80 != 0) = sign b) (by decide +kernel) b

lemma sign_iff (b : UInt8) : sign b = true ↔ 128 ≤ b.toNat := by
  have bound := b.toNat_lt
  rw [sign, Nat.testBit_eq_decide_div_mod_eq, decide_eq_true_iff]
  omega

@[simp] lemma sign_and (a b : UInt8) : sign (a &&& b) = (sign a && sign b) := by
  rw [sign, UInt8.toNat_and, Nat.testBit_and, sign, sign]

@[simp] lemma sign_xor (a b : UInt8) : sign (a ^^^ b) = (sign a ^^ sign b) := by
  rw [sign, UInt8.toNat_xor, Nat.testBit_xor, sign, sign]

@[simp] lemma sign_not (b : UInt8) : sign (~~~b) = !sign b := by
  have bound := b.toNat_lt
  rw [Bool.eq_iff_iff, Bool.not_eq_true', ← Bool.not_eq_true, sign_iff, sign_iff, UInt8.toNat_not,
    UInt8.size]
  omega

lemma signed_eq (b : UInt8) : signed b.toNat = b.toNat - 256 * ((sign b).toNat : ℤ) := by
  have top := sign_iff b
  rw [signed]
  cases h : sign b <;> simp_all

lemma signed_not (b : UInt8) : signed (~~~b).toNat = -1 - signed b.toNat := by
  have bound := b.toNat_lt
  rw [signed_eq, signed_eq, sign_not, UInt8.toNat_not, UInt8.size]
  cases sign b <;> simp <;> omega

/-- A number is out of reach of a number of bytes in two's complement. -/
def Overflows (bytes : ℕ) (number : ℤ) : Prop :=
  2 * number < -256 ^ bytes ∨ 256 ^ bytes ≤ 2 * number

lemma overflows_one (number : ℤ) : Overflows 1 number ↔ number < -128 ∨ 128 ≤ number := by
  rw [Overflows, pow_one]
  omega

namespace Flags

variable (f : Flags) (a value : UInt8)

/-! ## Binary -/

lemma toNat_decide (p : Prop) [Decidable p] : (decide p).toNat = if p then 1 else 0 := by
  by_cases h : p <;> simp [h]

lemma carryIn_le : f.carryIn ≤ 1 :=
  Bool.toNat_le f.carry

lemma toNat_addBinary :
    (f.addBinary a value).1.toNat = (a.toNat + value.toNat + f.carryIn) % 256 :=
  UInt8.toNat_ofNat'

lemma carryIn_addBinary :
    (f.addBinary a value).2.carryIn = if 255 < a.toNat + value.toNat + f.carryIn then 1 else 0 :=
  toNat_decide _

/-- The carry completes a sum. -/
lemma addBinary_exact : a.toNat + value.toNat + f.carryIn =
    (f.addBinary a value).1.toNat + 256 * (f.addBinary a value).2.carryIn := by
  have ha := a.toNat_lt
  have hvalue := value.toNat_lt
  have hcarry := f.carryIn_le
  rw [toNat_addBinary, carryIn_addBinary]
  split <;> omega

/-- Overflow: the operands have one sign, and the result the other. -/
lemma overflow_addBinary_eq : (f.addBinary a value).2.overflow =
    ((sign a ^^ sign (f.addBinary a value).1) && (sign value ^^ sign (f.addBinary a value).1)) := by
  rw [addBinary, and_signMask, sign_and, sign_xor, sign_xor]

/-- Overflow: the sum of the signed bytes is no signed byte. -/
lemma overflow_addBinary_iff : (f.addBinary a value).2.overflow = true ↔
    Overflows 1 (signed a.toNat + signed value.toNat + f.carryIn) := by
  have ha := sign_iff a
  have hvalue := sign_iff value
  have hresult := sign_iff (f.addBinary a value).1
  have aBound := a.toNat_lt
  have valueBound := value.toNat_lt
  have hcarry := f.carryIn_le
  rw [toNat_addBinary] at hresult
  rw [overflow_addBinary_eq, overflows_one, signed_eq, signed_eq]
  -- The three signs say on which side of 128 each byte lies.
  cases aSign : sign a <;> cases valueSign : sign value <;>
    cases resultSign : sign (f.addBinary a value).1 <;>
    simp only [aSign, valueSign, resultSign, true_iff, false_iff, Bool.false_eq_true, not_le,
      Bool.xor_true, Bool.xor_false, Bool.not_true, Bool.not_false, Bool.and_true, Bool.and_false,
      Bool.toNat_true, Bool.toNat_false] at ha hvalue hresult ⊢ <;>
    omega

/-- The binary difference, formed as a sum with the complement: the borrow completes it. -/
lemma subtractBinary_exact :
    (f.addBinary a (~~~value)).1.toNat + value.toNat + (1 - f.carryIn) =
      a.toNat + 256 * (1 - (f.addBinary a (~~~value)).2.carryIn) := by
  have exact_sum := f.addBinary_exact a (~~~value)
  have hvalue := value.toNat_lt
  have hcarry := f.carryIn_le
  have hout := (f.addBinary a (~~~value)).2.carryIn_le
  rw [UInt8.toNat_not, UInt8.size] at exact_sum
  omega

end Flags

/-! ## Decimal -/

/-- Both halves of the byte are decimal digits. -/
def IsDecimal (byte : UInt8) : Prop :=
  byte.toNat / 16 < 10 ∧ byte.toNat % 16 < 10

instance (byte : UInt8) : Decidable (IsDecimal byte) :=
  inferInstanceAs (Decidable (_ ∧ _))

/-- The number that the halves of the byte spell as decimal digits. -/
def twoDigits (byte : UInt8) : ℕ :=
  byte.toNat / 16 * 10 + byte.toNat % 16

lemma IsDecimal.lt {byte : UInt8} (h : IsDecimal byte) : twoDigits byte < 100 := by
  obtain ⟨tens, ones⟩ := h
  rw [twoDigits]
  omega

namespace Flags

variable (f : Flags) {a value : UInt8}

/-- The carry completes a decimal sum. -/
lemma addDecimal_exact (ha : IsDecimal a) (hvalue : IsDecimal value) :
    IsDecimal (f.addDecimal a value).1 ∧ twoDigits a + twoDigits value + f.carryIn =
      twoDigits (f.addDecimal a value).1 + 100 * (f.addDecimal a value).2.carryIn := by
  obtain ⟨aTens, aOnes⟩ := ha
  obtain ⟨tens, ones⟩ := hvalue
  have hcarry := f.carryIn_le
  set ones := a.toNat % 16 + value.toNat % 16 + f.carryIn with hones
  set low := if 10 ≤ ones then (ones + 6) % 16 + 16 else ones with hlow
  set half := a.toNat / 16 * 16 + value.toNat / 16 * 16 + low with hhalf
  set sum := if 0xA0 ≤ half then half + 0x60 else half with hsum
  have result : (f.addDecimal a value).1.toNat = sum % 256 := UInt8.toNat_ofNat'
  have carry : (f.addDecimal a value).2.carryIn = if 0x100 ≤ sum then 1 else 0 := toNat_decide _
  rw [IsDecimal, twoDigits, twoDigits, twoDigits, result, carry]
  split at hlow <;> split at hsum <;> split <;> omega

/-- The borrow completes a decimal difference. -/
lemma subtractDecimal_exact (ha : IsDecimal a) (hvalue : IsDecimal value) :
    IsDecimal (f.subtractDecimal a value).1 ∧
      twoDigits (f.subtractDecimal a value).1 + twoDigits value + (1 - f.carryIn) =
        twoDigits a + 100 * (1 - (f.subtractDecimal a value).2.carryIn) := by
  obtain ⟨aTens, aOnes⟩ := ha
  obtain ⟨tens, ones⟩ := hvalue
  have hcarry := f.carryIn_le
  set ones : ℤ := (a.toNat % 16 : ℕ) - (value.toNat % 16 : ℕ) + f.carryIn - 1 with hones
  set low : ℤ := if ones < 0 then (ones - 6) % 16 - 16 else ones with hlow
  set half : ℤ := (a.toNat / 16 * 16 : ℕ) - (value.toNat / 16 * 16 : ℕ) + low with hhalf
  set difference : ℤ := if half < 0 then half - 0x60 else half with hdifference
  have result : (f.subtractDecimal a value).1.toNat = (difference % 256).toNat := by
    refine UInt8.toNat_ofNat'.trans ?_
    omega
  have carry : (f.subtractDecimal a value).2.carryIn =
      if (0 : ℤ) ≤ a.toNat - value.toNat - (1 - f.carryIn) then 1 else 0 := toNat_decide _
  rw [IsDecimal, twoDigits, twoDigits, twoDigits, result, carry]
  split at hlow <;> split at hdifference <;> split <;> omega

/-! ## The two modes -/

lemma add_of_binary (h : f.decimal = false) : f.add a value = f.addBinary a value := by
  rw [add, h]
  exact if_neg Bool.false_ne_true

lemma add_of_decimal (h : f.decimal = true) : f.add a value = f.addDecimal a value := by
  rw [add, h]
  exact if_pos rfl

lemma subtract_of_binary (h : f.decimal = false) :
    f.subtract a value = f.addBinary a (~~~value) := by
  rw [subtract, h]
  exact if_neg Bool.false_ne_true

lemma subtract_of_decimal (h : f.decimal = true) :
    f.subtract a value = f.subtractDecimal a value := by
  rw [subtract, h]
  exact if_pos rfl

/-! ## The flags of a subtraction -/

/-- The four flags of an addition or a subtraction are the same. -/
structure SameArithmetic (f g : Flags) : Prop where
  negative : f.negative = g.negative
  overflow : f.overflow = g.overflow
  zero : f.zero = g.zero
  carry : f.carry = g.carry

lemma SameArithmetic.symm {f g : Flags} (h : f.SameArithmetic g) : g.SameArithmetic f :=
  ⟨h.negative.symm, h.overflow.symm, h.zero.symm, h.carry.symm⟩

lemma SameArithmetic.trans {f g k : Flags} (h : f.SameArithmetic g) (next : g.SameArithmetic k) :
    f.SameArithmetic k :=
  ⟨h.negative.trans next.negative, h.overflow.trans next.overflow, h.zero.trans next.zero,
    h.carry.trans next.carry⟩

/-- The three flags of a comparison are the same. -/
structure SameComparison (f g : Flags) : Prop where
  negative : f.negative = g.negative
  zero : f.zero = g.zero
  carry : f.carry = g.carry

variable (a value)

/-- The binary difference as a number and as a sum with the complement. -/
lemma binaryDifference_eq :
    UInt8.ofNat (((a.toNat : ℤ) - value.toNat - (1 - f.carryIn)) % 256).toNat =
      (f.addBinary a (~~~value)).1 := by
  have hvalue := value.toNat_lt
  have hcarry := f.carryIn_le
  rw [← UInt8.toNat_inj, toNat_addBinary, UInt8.toNat_not, UInt8.size, UInt8.toNat_ofNat']
  omega

/-- In decimal mode too, the flags are those of the binary difference. -/
lemma subtractDecimal_flags :
    (f.subtractDecimal a value).2.SameArithmetic (f.addBinary a (~~~value)).2 := by
  have result := f.binaryDifference_eq a value
  refine ⟨?_, ?_, ?_, ?_⟩
  · simp only [subtractDecimal, result]
    rfl
  · rw [overflow_addBinary_eq, sign_not]
    simp only [subtractDecimal, result, and_signMask, sign_and, sign_xor]
    cases sign a <;> cases sign value <;> cases sign (f.addBinary a (~~~value)).1 <;> rfl
  · simp only [subtractDecimal, result]
    rfl
  · have hvalue := value.toNat_lt
    have hcarry := f.carryIn_le
    have sum : (~~~value).toNat = 255 - value.toNat := UInt8.toNat_not value
    simp only [subtractDecimal, addBinary, sum, decide_eq_decide]
    omega

lemma subtract_flags : (f.subtract a value).2.SameArithmetic (f.addBinary a (~~~value)).2 := by
  rw [subtract]
  split
  · exact f.subtractDecimal_flags a value
  · exact ⟨rfl, rfl, rfl, rfl⟩

/-- What comes in as flags matters to a binary sum by the carry only. -/
lemma addBinary_flags {g : Flags} (carry : f.carry = g.carry) :
    (f.addBinary a value).2.SameArithmetic (g.addBinary a value).2 := by
  have carryIn : f.carryIn = g.carryIn := congrArg Bool.toNat carry
  simp only [addBinary, carryIn]
  exact ⟨rfl, rfl, rfl, rfl⟩

/-- The flags of a subtraction do not depend on the mode. -/
lemma subtract_sameArithmetic {g : Flags} (carry : f.carry = g.carry) :
    (f.subtract a value).2.SameArithmetic (g.subtract a value).2 := by
  have binary := f.addBinary_flags a (~~~value) carry
  exact (f.subtract_flags a value).trans (binary.trans (g.subtract_flags a value).symm)

/-- Without a borrow coming in, a subtraction compares. -/
lemma subtract_sameComparison (g : Flags) (carry : f.carry = true) :
    (f.subtract a value).2.SameComparison (g.compare a value) := by
  obtain ⟨negative, -, zero, out⟩ := f.subtract_flags a value
  have one : f.carryIn = 1 := congrArg Bool.toNat carry
  have ha := a.toNat_lt
  have hvalue := value.toNat_lt
  have result : (f.addBinary a (~~~value)).1 = a - value := by
    rw [← UInt8.toNat_inj, toNat_addBinary, UInt8.toNat_not, UInt8.size, one, UInt8.toNat_sub]
    omega
  have sum : (~~~value).toNat = 255 - value.toNat := UInt8.toNat_not value
  refine ⟨negative.trans ?_, zero.trans ?_, out.trans ?_⟩
  · rw [compare, ← result]
    rfl
  · rw [compare, ← result]
    rfl
  · simp only [addBinary, compare, sum, one, decide_eq_decide, UInt8.le_iff_toNat_le]
    omega

end Flags

end SidScore
