import SidScore.Processor.Mnemonic
import SidScore.Proofs.Processor.LongNumbers

/-!
# Bytes shifted in a row

A shift moves the bits of a byte by one place.  One bit leaves the byte, into the carry, and one
enters it at the other end: a zero, or the carry where the byte is rotated.  In numbers, the byte is
doubled or halved, and the two bits make that exact.

So a long number is shifted byte by byte, `Direction.through`, as long as each byte is entered by
the bit that left the one before it: from the lowest byte up to the left, from the highest down to
the right.  The number is doubled or halved, and the way back undoes the way there, because a number
and a bit are known by twice the number and the bit.
-/

namespace SidScore

/-- Where the bits of a byte are moved. -/
inductive Direction where
  /-- To the higher places. -/
  | left
  /-- To the lower places. -/
  | right
  deriving Repr, DecidableEq

/-- A shift or a rotation. -/
structure Shift where
  /-- Where the bits are moved. -/
  direction : Direction
  /-- The carry enters the byte, and not a zero. -/
  rotates : Bool
  deriving Repr, DecidableEq

/-! ## One byte -/

namespace Direction

/-- The byte with its bits moved, and with a bit entered. -/
def result (direction : Direction) (enters : Bool) (value : UInt8) : UInt8 :=
  match direction with
  | left => (value <<< 1) ||| Flags.bit enters 0x01
  | right => (value >>> 1) ||| Flags.bit enters 0x80

/-- The bit that leaves the byte. -/
def out (direction : Direction) (value : UInt8) : Bool :=
  match direction with
  | left => value &&& 0x80 != 0
  | right => value &&& 0x01 != 0

/-- To the left a byte is doubled. -/
lemma left_exact (enters : Bool) (value : UInt8) :
    (left.result enters value).toNat + 256 * (left.out value).toNat =
      2 * value.toNat + enters.toNat := by
  cases enters with
  | false =>
    exact forall_byte (P := fun value => (left.result false value).toNat +
      256 * (left.out value).toNat = 2 * value.toNat + 0) (by decide +kernel) value
  | true =>
    exact forall_byte (P := fun value => (left.result true value).toNat +
      256 * (left.out value).toNat = 2 * value.toNat + 1) (by decide +kernel) value

/-- To the right it is halved. -/
lemma right_exact (enters : Bool) (value : UInt8) :
    2 * (right.result enters value).toNat + (right.out value).toNat =
      value.toNat + 256 * enters.toNat := by
  cases enters with
  | false =>
    exact forall_byte (P := fun value => 2 * (right.result false value).toNat +
      (right.out value).toNat = value.toNat + 256 * 0) (by decide +kernel) value
  | true =>
    exact forall_byte (P := fun value => 2 * (right.result true value).toNat +
      (right.out value).toNat = value.toNat + 256 * 1) (by decide +kernel) value

end Direction

namespace Shift

/-- The instruction. -/
def mnemonic : Shift → Mnemonic
  | ⟨.left, false⟩ => .asl
  | ⟨.right, false⟩ => .lsr
  | ⟨.left, true⟩ => .rol
  | ⟨.right, true⟩ => .ror

/-- What the instruction makes of a byte. -/
def apply (shift : Shift) (flags : Flags) (value : UInt8) : ByteResult :=
  match shift with
  | ⟨.left, false⟩ => flags.shiftLeft value
  | ⟨.right, false⟩ => flags.shiftRight value
  | ⟨.left, true⟩ => flags.rotateLeft value
  | ⟨.right, true⟩ => flags.rotateRight value

/-- The bit that enters the byte. -/
def enters (shift : Shift) (carry : Bool) : Bool :=
  shift.rotates && carry

lemma apply_eq (shift : Shift) (flags : Flags) (value : UInt8) :
    shift.apply flags value =
      (shift.direction.result (shift.enters flags.carry) value,
        flags.afterShift (shift.direction.result (shift.enters flags.carry) value)
          (shift.direction.out value)) := by
  obtain ⟨direction, rotates⟩ := shift
  have shifted (byte : UInt8) : byte ||| Flags.bit false 0x01 = byte := UInt8.or_zero
  have shifted' (byte : UInt8) : byte ||| Flags.bit false 0x80 = byte := UInt8.or_zero
  cases direction with
  | left =>
    cases rotates with
    | false => simp only [apply, Flags.shiftLeft, enters, Direction.result, Bool.false_and, shifted,
        Direction.out]
    | true => rfl
  | right =>
    cases rotates with
    | false => simp only [apply, Flags.shiftRight, enters, Direction.result, Bool.false_and,
        shifted', Direction.out]
    | true => rfl

end Shift

/-! ## Many bytes -/

namespace Direction

/-- Bytes shifted one after the other, each entered by the bit that left the one before it, and the
bit that left the last one. -/
def through (direction : Direction) : Bool → List UInt8 → List UInt8 × Bool
  | enters, [] => ([], enters)
  | enters, value :: rest =>
    (direction.result enters value :: (direction.through (direction.out value) rest).1,
      (direction.through (direction.out value) rest).2)

variable (direction : Direction) (enters : Bool) (bytes : List UInt8)

@[simp] lemma length_through : (direction.through enters bytes).1.length = bytes.length := by
  induction bytes generalizing enters with
  | nil => rfl
  | cons value rest ih => rw [through, List.length_cons, ih, List.length_cons]

end Direction

lemma longNumber_cons (byte : UInt8) (bytes : List UInt8) :
    longNumber (byte :: bytes) = byte.toNat + 256 * longNumber bytes :=
  Nat.ofDigits_cons

lemma longNumber_concat (bytes : List UInt8) (byte : UInt8) :
    longNumber (bytes ++ [byte]) = longNumber bytes + 256 ^ bytes.length * byte.toNat := by
  rw [longNumber, List.map_append, Nat.ofDigits_append, List.length_map, List.map_singleton,
    Nat.ofDigits_singleton, longNumber]

lemma longNumber_lt (bytes : List UInt8) : longNumber bytes < 256 ^ bytes.length :=
  ofDigits_map_lt (by decide) fun byte _ => byte.toNat_lt

/-- A number of known length has its bytes. -/
lemma longNumber_inj {bytes other : List UInt8} (length : bytes.length = other.length)
    (h : longNumber bytes = longNumber other) : bytes = other := by
  have digits (list : List UInt8) : ∀ digit ∈ list.map UInt8.toNat, digit < 256 := by
    intro digit mem
    obtain ⟨byte, -, rfl⟩ := List.mem_map.mp mem
    exact byte.toNat_lt
  have numbers : bytes.map UInt8.toNat = other.map UInt8.toNat :=
    Nat.ofDigits_inj_of_len_eq (by decide) (by simpa using length) (digits bytes) (digits other) h
  exact List.map_injective_iff.mpr (fun _ _ => UInt8.toNat_inj.mp) numbers

namespace Direction

/-- From the lowest byte up, a number is doubled. -/
lemma left_through (enters : Bool) (bytes : List UInt8) :
    longNumber (left.through enters bytes).1 +
        256 ^ bytes.length * (left.through enters bytes).2.toNat =
      2 * longNumber bytes + enters.toNat := by
  induction bytes generalizing enters with
  | nil => simp [through, longNumber]
  | cons value rest ih =>
    have lowest := left_exact enters value
    have higher := ih (left.out value)
    rw [through, longNumber_cons, longNumber_cons, List.length_cons, pow_succ]
    set number := longNumber (left.through (left.out value) rest).1
    set last := (left.through (left.out value) rest).2.toNat
    calc (left.result enters value).toNat + 256 * number + 256 ^ rest.length * 256 * last
        = (left.result enters value).toNat + 256 * (number + 256 ^ rest.length * last) := by ring
      _ = (left.result enters value).toNat + 256 * (left.out value).toNat +
            256 * (2 * longNumber rest) := by rw [higher]; ring
      _ = 2 * (value.toNat + 256 * longNumber rest) + enters.toNat := by rw [lowest]; ring

/-- From the highest byte down, a number is halved. -/
lemma right_through (enters : Bool) (bytes : List UInt8) :
    2 * longNumber (right.through enters bytes).1.reverse + (right.through enters bytes).2.toNat =
      longNumber bytes.reverse + 256 ^ bytes.length * enters.toNat := by
  induction bytes generalizing enters with
  | nil => simp [through, longNumber]
  | cons value rest ih =>
    have highest := right_exact enters value
    have lower := ih (right.out value)
    rw [through, List.reverse_cons, List.reverse_cons, longNumber_concat, longNumber_concat,
      List.length_reverse, List.length_reverse, length_through, List.length_cons, pow_succ]
    set number := longNumber (right.through (right.out value) rest).1.reverse
    set last := (right.through (right.out value) rest).2.toNat
    set power := 256 ^ rest.length
    calc 2 * (number + power * (right.result enters value).toNat) + last
        = (2 * number + last) + power * (2 * (right.result enters value).toNat) := by ring
      _ = longNumber rest.reverse +
            power * (2 * (right.result enters value).toNat + (right.out value).toNat) := by
          rw [lower]; ring
      _ = longNumber rest.reverse + power * value.toNat + power * 256 * enters.toNat := by
          rw [highest]; ring

/-- The way back, from the highest byte down, undoes the way up. -/
lemma through_back (enters : Bool) (bytes : List UInt8) :
    right.through (left.through enters bytes).2 (left.through enters bytes).1.reverse =
      (bytes.reverse, enters) := by
  have up := left_through enters bytes
  have down := right_through (left.through enters bytes).2 (left.through enters bytes).1.reverse
  rw [List.reverse_reverse, List.length_reverse, length_through, up] at down
  set back := right.through (left.through enters bytes).2 (left.through enters bytes).1.reverse
    with hback
  have length : back.1.reverse.length = bytes.length := by
    rw [hback, List.length_reverse, length_through, List.length_reverse, length_through]
  -- Twice a number and a bit tell the number and the bit.
  have same_bit : back.2 = enters := by
    cases bit : back.2 <;> cases bit' : enters <;> simp [bit, bit'] at down ⊢ <;> omega
  rw [same_bit] at down
  have same_bytes : back.1.reverse = bytes := longNumber_inj length (by omega)
  rw [← same_bytes, List.reverse_reverse, ← same_bit]

end Direction

/-! ## What is left of the number -/

/-- The top bit says whether twice the number still fits. -/
lemma testBit_top {bytes : List UInt8} (h : bytes ≠ []) :
    (longNumber bytes).testBit (8 * bytes.length - 1) =
      decide (256 ^ bytes.length ≤ 2 * longNumber bytes) := by
  have bound := longNumber_lt bytes
  have some_bytes : bytes.length ≠ 0 := mt List.length_eq_zero_iff.mp h
  have power : 256 ^ bytes.length = 2 * 2 ^ (8 * bytes.length - 1) := by
    have base : (256 : ℕ) = 2 ^ 8 := rfl
    rw [base, ← pow_mul, ← pow_succ']
    exact congrArg (2 ^ ·) (by omega)
  rw [power] at bound ⊢
  rw [Nat.testBit_eq_decide_div_mod_eq, decide_eq_decide]
  set half := 2 ^ (8 * bytes.length - 1) with hhalf
  have positive : 0 < half := Nat.two_pow_pos _
  by_cases high : half ≤ longNumber bytes
  · have quotient : longNumber bytes / half = 1 := by
      rw [Nat.div_eq_iff positive]
      omega
    rw [quotient]
    omega
  · rw [Nat.div_eq_of_lt (Nat.lt_of_not_le high)]
    omega

namespace Direction

/-- A shift to the left, with a zero entering: what fits of twice the number, and its top bit. -/
lemma left_number {bytes : List UInt8} (h : bytes ≠ []) :
    longNumber (left.through false bytes).1 = 2 * longNumber bytes % 256 ^ bytes.length ∧
      (left.through false bytes).2 = (longNumber bytes).testBit (8 * bytes.length - 1) := by
  have doubled : longNumber (left.through false bytes).1 +
      256 ^ bytes.length * (left.through false bytes).2.toNat = 2 * longNumber bytes :=
    left_through false bytes
  have bound := longNumber_lt (left.through false bytes).1
  rw [length_through] at bound
  rw [testBit_top h, ← doubled]
  refine ⟨?_, ?_⟩
  · rw [Nat.add_mul_mod_self_left, Nat.mod_eq_of_lt bound]
  · cases (left.through false bytes).2 <;> simp [bound]

/-- A shift to the right: half the number, and its lowest bit. -/
lemma right_number (bytes : List UInt8) :
    longNumber (right.through false bytes).1.reverse = longNumber bytes.reverse / 2 ∧
      (right.through false bytes).2 = (longNumber bytes.reverse).testBit 0 := by
  have halved : 2 * longNumber (right.through false bytes).1.reverse +
      (right.through false bytes).2.toNat = longNumber bytes.reverse :=
    right_through false bytes
  rw [← halved, Nat.testBit_zero]
  cases (right.through false bytes).2 with
  | false => exact ⟨by simp, by simp⟩
  | true => exact ⟨by simp; omega, by simp⟩

end Direction

end SidScore
