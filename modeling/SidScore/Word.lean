/-!
# Bytes, words and their hexadecimal text

The machine moves bytes and addresses them by words, so `UInt8` and `UInt16` are used as they are:
their arithmetic wraps exactly where the hardware's does.  What is added here is the little that
joins the two widths, a word as its two bytes, and the upper-case hexadecimal text in which
addresses and bytes appear in messages.
-/

namespace SidScore

/-! ## A word and its two bytes -/

/-- The word with the given low and high byte. -/
def wordOf (low high : UInt8) : UInt16 :=
  (high.toUInt16 <<< 8) ||| low.toUInt16

/-- The high byte of a word. -/
def highByte (w : UInt16) : UInt8 :=
  (w >>> 8).toUInt8

/-- The low byte of a word. -/
def lowByte (w : UInt16) : UInt8 :=
  w.toUInt8

/-- Two addresses lie on one page when they share their high byte. -/
def samePage (a b : UInt16) : Bool :=
  (a &&& 0xFF00) == (b &&& 0xFF00)

/-- A byte read as a signed offset and widened to a word: `$FF` becomes `$FFFF`. -/
def signExtend (b : UInt8) : UInt16 :=
  if b &&& 0x80 = 0 then b.toUInt16 else b.toUInt16 ||| 0xFF00

/-! ## Hexadecimal text -/

/-- The upper-case digit for a value below sixteen. -/
def hexDigit (n : Nat) : Char :=
  if n < 10 then Char.ofNat (48 + n) else Char.ofNat (55 + n)

/-- Two upper-case hexadecimal digits. -/
def hexByte (b : UInt8) : String :=
  String.ofList [hexDigit (b.toNat / 16), hexDigit (b.toNat % 16)]

/-- Four upper-case hexadecimal digits. -/
def hexWord (w : UInt16) : String :=
  hexByte (highByte w) ++ hexByte (lowByte w)

end SidScore
