import Mathlib.Data.List.Chain
import Mathlib.Data.List.Induction
import Mathlib.Data.Nat.Digits.Defs
import Mathlib.Tactic.Ring
import SidScore.Proofs.Processor.ByteArithmetic

/-!
# Numbers of many bytes

Long numbers are spelled by bytes, the lowest one first, and computed with column by column.  That
a column is exact is a fact about one byte with its carry; that the number is exact follows, as long
as each column takes its carry from the one below (`Linked`).  Overflow in two's complement is
decided by the highest column alone.
-/

namespace SidScore

/-! ## Columns of digits -/

section Columns

variable {α β γ : Type} {b : ℕ} {columns : List α}

/-- Each column takes its carry from the column before. -/
def Linked (carryIn carryOut : α → β) (columns : List α) : Prop :=
  columns.IsChain fun column next => carryIn next = carryOut column

lemma linked_cons_iff {carryIn carryOut : α → β} {column : α} (h : columns ≠ []) :
    Linked carryIn carryOut (column :: columns) ↔
      carryIn (columns.head h) = carryOut column ∧ Linked carryIn carryOut columns := by
  obtain ⟨next, rest, rfl⟩ := List.exists_cons_of_ne_nil h
  exact List.isChain_cons_cons

lemma Linked.map {carryIn carryOut : α → β} (linked : Linked carryIn carryOut columns) (f : β → γ) :
    Linked (fun column => f (carryIn column)) (fun column => f (carryOut column)) columns :=
  List.IsChain.imp (fun _ _ link => congrArg f link) linked

variable {carryIn carryOut : α → ℕ}

/-- Carrying is exact: if every digit, with the carry out, is the sum of its column, then the number
of the digits, with the last carry, is the sum of the numbers. -/
lemma ofDigits_columns {x y r : α → ℕ} (h : columns ≠ []) (linked : Linked carryIn carryOut columns)
    (column : ∀ c ∈ columns, x c + y c + carryIn c = r c + b * carryOut c) :
    Nat.ofDigits b (columns.map x) + Nat.ofDigits b (columns.map y) + carryIn (columns.head h) =
      Nat.ofDigits b (columns.map r) + b ^ columns.length * carryOut (columns.getLast h) := by
  induction columns, h using List.recNeNil with
  | singleton c => simpa using column c (by simp)
  | cons c rest nonempty ih =>
    obtain ⟨link, linked⟩ := (linked_cons_iff nonempty).mp linked
    have first := column c List.mem_cons_self
    have higher := ih linked fun d hd => column d (List.mem_cons_of_mem c hd)
    rw [link] at higher
    simp only [List.map_cons, Nat.ofDigits_cons, List.head_cons, List.getLast_cons nonempty,
      List.length_cons]
    set X := Nat.ofDigits b (rest.map x)
    set Y := Nat.ofDigits b (rest.map y)
    set R := Nat.ofDigits b (rest.map r)
    set out := carryOut (rest.getLast nonempty)
    calc x c + b * X + (y c + b * Y) + carryIn c = x c + y c + carryIn c + b * (X + Y) := by ring
      _ = r c + b * (X + Y + carryOut c) := by rw [first]; ring
      _ = r c + b * R + b ^ (rest.length + 1) * out := by rw [higher]; ring

lemma ofDigits_map_lt (hb : 1 < b) {r : α → ℕ} (h : ∀ c ∈ columns, r c < b) :
    Nat.ofDigits b (columns.map r) < b ^ columns.length := by
  have digits : ∀ d ∈ columns.map r, d < b := by
    intro d mem
    obtain ⟨c, hc, rfl⟩ := List.mem_map.mp mem
    exact h c hc
  rw [← List.length_map (f := r)]
  exact Nat.ofDigits_lt_base_pow_length hb digits

end Columns

/-- A result that a carry completes to a total is the total but for the carry. -/
lemma eq_mod_of_completed {total result power : ℕ} {out : Bool}
    (h : total = result + power * out.toNat) (bound : result < power) :
    result = total % power ∧ (out = true ↔ power ≤ total) := by
  cases out with
  | false =>
    obtain rfl : total = result := by simpa using h
    refine ⟨(Nat.mod_eq_of_lt bound).symm, ?_⟩
    simpa using bound
  | true =>
    obtain rfl : total = result + power := by simpa using h
    rw [Nat.add_mod_right]
    refine ⟨(Nat.mod_eq_of_lt bound).symm, ?_⟩
    simp

/-- A result that a borrow completes is the difference but for the borrow. -/
lemma eq_emod_of_borrowed {minuend subtrahend result power : ℕ} {carry out : Bool}
    (h : result + subtrahend + (1 - carry.toNat) = minuend + power * (1 - out.toNat))
    (bound : result < power) :
    (result : ℤ) = (minuend - subtrahend - (1 - carry.toNat)) % power ∧
      (out = true ↔ subtrahend + (1 - carry.toNat) ≤ minuend) := by
  have incoming := Bool.toNat_le carry
  have small : (result : ℤ) % power = result := Int.emod_eq_of_lt (by omega) (by omega)
  cases out with
  | false =>
    have wrapped : (minuend : ℤ) - subtrahend - (1 - carry.toNat) = result - power := by
      simp only [Bool.toNat_false] at h
      omega
    refine ⟨?_, ?_⟩
    · rw [wrapped, Int.sub_emod_right, small]
    · simp only [Bool.toNat_false, Bool.false_eq_true, false_iff] at h ⊢
      omega
  | true =>
    have exact_difference : (minuend : ℤ) - subtrahend - (1 - carry.toNat) = result := by
      simp only [Bool.toNat_true] at h
      omega
    refine ⟨?_, ?_⟩
    · rw [exact_difference, small]
    · simp only [Bool.toNat_true, true_iff] at h ⊢
      omega

/-! ## Numbers of bytes -/

/-- The number that bytes spell, the lowest byte first. -/
def longNumber (bytes : List UInt8) : ℕ :=
  Nat.ofDigits 256 (bytes.map UInt8.toNat)

/-- The number that bytes spell in two's complement. -/
def signedLong (bytes : List UInt8) : ℤ :=
  if 2 * longNumber bytes < 256 ^ bytes.length then longNumber bytes
  else longNumber bytes - 256 ^ bytes.length

/-- The number that bytes spell with two decimal digits each. -/
def decimalLong (bytes : List UInt8) : ℕ :=
  Nat.ofDigits 100 (bytes.map twoDigits)

lemma signedLong_singleton (byte : UInt8) : signedLong [byte] = signed byte.toNat := by
  have single : longNumber [byte] = byte.toNat := Nat.ofDigits_singleton
  rw [signedLong, signed, single, List.length_singleton, pow_one, pow_one]
  split <;> split <;> omega

/-- The sign of a number is that of its highest byte. -/
lemma signedLong_cons (byte : UInt8) {rest : List UInt8} (h : rest ≠ []) :
    signedLong (byte :: rest) = byte.toNat + 256 * signedLong rest := by
  have bound := byte.toNat_lt
  obtain ⟨next, others, rfl⟩ := List.exists_cons_of_ne_nil h
  have number : longNumber (byte :: next :: others) =
      byte.toNat + 256 * longNumber (next :: others) := Nat.ofDigits_cons
  -- Half of a power of 256 is a whole number, so the byte does not decide the sign.
  have power : (256 : ℤ) ^ others.length = (256 ^ others.length : ℕ) := by push_cast; rfl
  rw [signedLong, signedLong, number]
  simp only [List.length_cons, pow_succ, power]
  split <;> split <;> omega

/-- Complementing all bytes mirrors a number at minus one half. -/
lemma signedLong_complement {bytes : List UInt8} (h : bytes ≠ []) :
    signedLong (bytes.map (~~~·)) = -1 - signedLong bytes := by
  induction bytes, h using List.recNeNil with
  | singleton byte =>
    rw [List.map_singleton, signedLong_singleton, signedLong_singleton, signed_not]
  | cons byte rest nonempty ih =>
    have bound := byte.toNat_lt
    rw [List.map_cons, signedLong_cons _ (by simpa using nonempty), signedLong_cons _ nonempty, ih,
      UInt8.toNat_not, UInt8.size]
    omega

/-! ## Overflow -/

/-- A lower byte does not decide whether a number is out of reach. -/
lemma overflows_succ_iff {bytes digit : ℕ} (number : ℤ) (h : bytes ≠ 0) (bound : digit < 256) :
    Overflows (bytes + 1) (digit + 256 * number) ↔ Overflows bytes number := by
  obtain ⟨others, rfl⟩ := Nat.exists_eq_succ_of_ne_zero h
  rw [Overflows, Overflows, pow_succ, pow_succ]
  omega

/-- Whether a sum overflows depends on the highest column: the lower ones matter by their carry. -/
lemma overflows_columns {α : Type} {columns : List α} {x y : α → UInt8} {r carryIn carryOut : α → ℕ}
    (h : columns ≠ []) (linked : Linked carryIn carryOut columns)
    (column : ∀ c ∈ columns,
      (x c).toNat + (y c).toNat + carryIn c = r c + 256 * carryOut c ∧ r c < 256) :
    Overflows columns.length (signedLong (columns.map x) + signedLong (columns.map y) +
        carryIn (columns.head h)) ↔
      Overflows 1 (signed (x (columns.getLast h)).toNat + signed (y (columns.getLast h)).toNat +
        carryIn (columns.getLast h)) := by
  induction columns, h using List.recNeNil with
  | singleton c =>
    simp only [List.map_singleton, signedLong_singleton, List.length_singleton, List.head_singleton,
      List.getLast_singleton]
  | cons c rest nonempty ih =>
    obtain ⟨link, linked⟩ := (linked_cons_iff nonempty).mp linked
    obtain ⟨first, digit⟩ := column c List.mem_cons_self
    have higher := ih linked fun d hd => column d (List.mem_cons_of_mem c hd)
    have some_rest : rest.length ≠ 0 := mt List.length_eq_zero_iff.mp nonempty
    have sum : (((x c).toNat : ℤ) + 256 * signedLong (rest.map x)) +
        ((y c).toNat + 256 * signedLong (rest.map y)) + carryIn c =
        r c + 256 * (signedLong (rest.map x) + signedLong (rest.map y) + carryOut c) := by
      omega
    rw [link] at higher
    rw [List.getLast_cons nonempty, ← higher, List.map_cons, List.map_cons, List.head_cons,
      List.length_cons, signedLong_cons _ (by simpa using nonempty),
      signedLong_cons _ (by simpa using nonempty), sum, overflows_succ_iff _ some_rest digit]

end SidScore
