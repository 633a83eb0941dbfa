/-!
# The status flags

Seven flags, kept apart as Booleans, and the byte that packs them in the order `NV-BDIZC`.  Bit 5
has no flag behind it and always reads as one.  The Break flag has no storage in the chip either:
it exists in the packed byte only, so every pull clears it, and only a direct assignment of the
whole status can set it here.
-/

namespace SidScore

/-- The status flags of the processor. -/
structure Flags where
  /-- Bit 7: the last result was negative as a signed byte. -/
  negative : Bool
  /-- Bit 6: the last addition or subtraction overflowed as a signed one. -/
  overflow : Bool
  /-- Bit 4: set in the bytes pushed by `PHP` and `BRK`. -/
  brk : Bool
  /-- Bit 3: additions and subtractions work on decimal digits. -/
  decimal : Bool
  /-- Bit 2: maskable interrupts are held off. -/
  interruptDisable : Bool
  /-- Bit 1: the last result was zero. -/
  zero : Bool
  /-- Bit 0: carry out of an addition or shift, or the absence of a borrow. -/
  carry : Bool
  deriving Repr, DecidableEq, Inhabited

namespace Flags

/-- One bit of the packed byte. -/
def bit (set : Bool) (mask : UInt8) : UInt8 :=
  if set then mask else 0

/-- The packed status byte, with bit 5 set. -/
def toByte (f : Flags) : UInt8 :=
  0x20 ||| bit f.negative 0x80 ||| bit f.overflow 0x40 ||| bit f.brk 0x10 ||| bit f.decimal 0x08
    ||| bit f.interruptDisable 0x04 ||| bit f.zero 0x02 ||| bit f.carry 0x01

/-- The flags that a status byte packs.  Bit 5 is ignored. -/
def ofByte (b : UInt8) : Flags where
  negative := b &&& 0x80 != 0
  overflow := b &&& 0x40 != 0
  brk := b &&& 0x10 != 0
  decimal := b &&& 0x08 != 0
  interruptDisable := b &&& 0x04 != 0
  zero := b &&& 0x02 != 0
  carry := b &&& 0x01 != 0

/-- The flags restored from the stack: those of the byte, with Break clear. -/
def ofPulled (b : UInt8) : Flags :=
  { ofByte b with brk := false }

/-- The byte that `PHP` and `BRK` push: the status with Break and bit 5 set. -/
def toPushed (f : Flags) : UInt8 :=
  f.toByte ||| 0x30

/-- Zero and Negative as a result byte sets them. -/
def withResult (f : Flags) (result : UInt8) : Flags :=
  { f with zero := result == 0, negative := result &&& 0x80 != 0 }

/-! ## Letters -/

/-- A letter, capital if the flag is set and small if not. -/
def letter (set : Bool) (name : Char) : Char :=
  if set then name else name.toLower

/-- The flags as seven letters, in the order of the packed byte. -/
def toText (f : Flags) : String :=
  String.ofList [letter f.negative 'N', letter f.overflow 'V', letter f.brk 'B',
    letter f.decimal 'D', letter f.interruptDisable 'I', letter f.zero 'Z', letter f.carry 'C']

/-- The flags with one of them set by its capital letter or cleared by its small one.  Any other
character changes nothing. -/
def withLetter (f : Flags) (c : Char) : Flags :=
  match c.toUpper with
  | 'N' => { f with negative := c.isUpper }
  | 'V' => { f with overflow := c.isUpper }
  | 'B' => { f with brk := c.isUpper }
  | 'D' => { f with decimal := c.isUpper }
  | 'I' => { f with interruptDisable := c.isUpper }
  | 'Z' => { f with zero := c.isUpper }
  | 'C' => { f with carry := c.isUpper }
  | _ => f

/-! ## Power-on -/

/-- The flags after power-on: only interrupts are held off. -/
def powerOn : Flags where
  negative := false
  overflow := false
  brk := false
  decimal := false
  interruptDisable := true
  zero := false
  carry := false

end Flags

end SidScore
