/-!
# Addressing modes

The thirteen ways in which an instruction names its operand.  The mode alone fixes how many bytes
follow the opcode, so an instruction's size is computed from it and never stored.
-/

namespace SidScore

/-- How an instruction locates its operand. -/
inductive Mode where
  /-- No operand. -/
  | implicit
  /-- The accumulator itself. -/
  | accumulator
  /-- The byte after the opcode. -/
  | immediate
  /-- A cell of page zero. -/
  | zeroPage
  /-- A cell of page zero, `X` further on, wrapping within the page. -/
  | zeroPageX
  /-- A cell of page zero, `Y` further on, wrapping within the page. -/
  | zeroPageY
  /-- A signed distance from the next instruction. -/
  | relative
  /-- A full address. -/
  | absolute
  /-- A full address, `X` further on. -/
  | absoluteX
  /-- A full address, `Y` further on. -/
  | absoluteY
  /-- The address held by a pointer anywhere in memory. -/
  | indirect
  /-- The address held by the page-zero pointer `X` further on. -/
  | indirectX
  /-- `Y` beyond the address held by a page-zero pointer. -/
  | indirectY
  deriving Repr, DecidableEq, Inhabited

namespace Mode

/-- All modes, in the order in which they are listed. -/
def all : List Mode :=
  [implicit, accumulator, immediate, zeroPage, zeroPageX, zeroPageY, relative, absolute,
    absoluteX, absoluteY, indirect, indirectX, indirectY]

/-- The name of a mode. -/
def name : Mode → String
  | implicit => "Implicit"
  | accumulator => "Accumulator"
  | immediate => "Immediate"
  | zeroPage => "ZeroPage"
  | zeroPageX => "ZeroPageX"
  | zeroPageY => "ZeroPageY"
  | relative => "Relative"
  | absolute => "Absolute"
  | absoluteX => "AbsoluteX"
  | absoluteY => "AbsoluteY"
  | indirect => "Indirect"
  | indirectX => "IndirectX"
  | indirectY => "IndirectY"

/-- The number of operand bytes after the opcode. -/
def operandBytes : Mode → UInt8
  | implicit | accumulator => 0
  | absolute | absoluteX | absoluteY | indirect => 2
  | immediate | zeroPage | zeroPageX | zeroPageY | relative | indirectX | indirectY => 1

end Mode

end SidScore
