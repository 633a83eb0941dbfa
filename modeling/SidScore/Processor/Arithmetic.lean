import SidScore.Processor.Flags

/-!
# Arithmetic and logic on bytes

Each operation takes its bytes and the flags before it, and gives the result byte with the flags
after it; where the bytes come from and where the result goes is decided elsewhere.

Sums and differences are formed in `Nat` and `Int`, where nothing wraps, and cut to a byte last.
So a carry is a comparison with 256 and a borrow is a sign.

## Decimal mode

Decimal addition corrects each digit that exceeds nine.  The flags are taken at different moments
of that computation: Zero from the plain binary sum, Negative and Overflow after the low digit was
corrected but before the high one, and Carry at the very end.  Decimal subtraction takes all its
flags from the binary difference, and only its result byte is decimal.
-/

namespace SidScore

/-- A result byte and the flags that go with it. -/
abbrev ByteResult := UInt8 × Flags

namespace Flags

/-- The carry as a number. -/
def carryIn (f : Flags) : Nat :=
  f.carry.toNat

/-! ## Addition and subtraction -/

/-- Binary addition with carry.  Overflow means that both operands had one sign and the result has
the other. -/
def addBinary (f : Flags) (a value : UInt8) : ByteResult :=
  let sum := a.toNat + value.toNat + f.carryIn
  let result := UInt8.ofNat sum
  (result,
    { f.withResult result with
      carry := 0xFF < sum
      overflow := (a ^^^ result) &&& (value ^^^ result) &&& 0x80 != 0 })

/-- Decimal addition with carry. -/
def addDecimal (f : Flags) (a value : UInt8) : ByteResult :=
  let low := a.toNat % 16 + value.toNat % 16 + f.carryIn
  let low := if 10 ≤ low then (low + 6) % 16 + 16 else low
  let partialSum := a.toNat / 16 * 16 + value.toNat / 16 * 16 + low
  let halfway := UInt8.ofNat partialSum
  let sum := if 0xA0 ≤ partialSum then partialSum + 0x60 else partialSum
  (UInt8.ofNat sum,
    { f with
      zero := (a.toNat + value.toNat + f.carryIn) % 256 == 0
      negative := halfway &&& 0x80 != 0
      overflow := ~~~(a ^^^ value) &&& (a ^^^ halfway) &&& 0x80 != 0
      carry := 0x100 ≤ sum })

/-- Addition with carry, in the mode that the flags select. -/
def add (f : Flags) (a value : UInt8) : ByteResult :=
  if f.decimal then f.addDecimal a value else f.addBinary a value

/-- Decimal subtraction with borrow. -/
def subtractDecimal (f : Flags) (a value : UInt8) : ByteResult :=
  let difference : Int := a.toNat - value.toNat - (1 - f.carryIn : Int)
  let binary := UInt8.ofNat (difference % 256).toNat
  let low : Int := (a.toNat % 16 : Nat) - (value.toNat % 16 : Nat) + f.carryIn - 1
  let low := if low < 0 then (low - 6) % 16 - 16 else low
  let result : Int := (a.toNat / 16 * 16 : Nat) - (value.toNat / 16 * 16 : Nat) + low
  let result := if result < 0 then result - 0x60 else result
  (UInt8.ofNat (result % 256).toNat,
    { f.withResult binary with
      carry := 0 ≤ difference
      overflow := (a ^^^ value) &&& (a ^^^ binary) &&& 0x80 != 0 })

/-- Subtraction with borrow, in the mode that the flags select.  The binary difference is the sum
with the complement, because `A - M - (1 - C) = A + (255 - M) + C - 256`. -/
def subtract (f : Flags) (a value : UInt8) : ByteResult :=
  if f.decimal then f.subtractDecimal a value else f.addBinary a (~~~value)

/-! ## Comparison and bit test -/

/-- The flags of a comparison: Carry when the register is not below the operand, Zero and Negative
of the difference. -/
def compare (f : Flags) (register value : UInt8) : Flags :=
  { f.withResult (register - value) with carry := value ≤ register }

/-- The flags of a bit test: Zero of the conjunction, Negative and Overflow from the operand. -/
def testBits (f : Flags) (a value : UInt8) : Flags :=
  { f with
    zero := a &&& value == 0
    negative := value &&& 0x80 != 0
    overflow := value &&& 0x40 != 0 }

/-! ## Shifts and rotations -/

/-- The flags after a shift: the bit that left, and the result's Zero and Negative. -/
def afterShift (f : Flags) (result : UInt8) (out : Bool) : Flags :=
  { f.withResult result with carry := out }

/-- Shifts left; bit 7 leaves into Carry. -/
def shiftLeft (f : Flags) (value : UInt8) : ByteResult :=
  let result := value <<< 1
  (result, f.afterShift result (value &&& 0x80 != 0))

/-- Shifts right; bit 0 leaves into Carry. -/
def shiftRight (f : Flags) (value : UInt8) : ByteResult :=
  let result := value >>> 1
  (result, f.afterShift result (value &&& 0x01 != 0))

/-- Rotates left through Carry. -/
def rotateLeft (f : Flags) (value : UInt8) : ByteResult :=
  let result := (value <<< 1) ||| bit f.carry 0x01
  (result, f.afterShift result (value &&& 0x80 != 0))

/-- Rotates right through Carry. -/
def rotateRight (f : Flags) (value : UInt8) : ByteResult :=
  let result := (value >>> 1) ||| bit f.carry 0x80
  (result, f.afterShift result (value &&& 0x01 != 0))

/-! ## Counting -/

/-- The byte after, with its Zero and Negative. -/
def increment (f : Flags) (value : UInt8) : ByteResult :=
  (value + 1, f.withResult (value + 1))

/-- The byte before, with its Zero and Negative. -/
def decrement (f : Flags) (value : UInt8) : ByteResult :=
  (value - 1, f.withResult (value - 1))

end Flags

end SidScore
