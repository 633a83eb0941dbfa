import SidScore.Processor.Bus
import SidScore.Processor.Mode
import SidScore.Processor.Outcome
import SidScore.Processor.State

/-!
# Operands

An addressing mode is resolved once, before the instruction runs, into the place where its operand
lies: a register, the byte inside the instruction, or a cell of memory.  Instructions then read
and write that place without knowing the mode.

Resolving reads the operand bytes and any pointer, and nothing else; in particular not the operand
itself.  Two wraps are those of the hardware.  Indexing a page-zero address, and fetching the high
byte of a page-zero pointer, stay within page zero; and the pointer of an indirect jump has its
high byte fetched from the page of its low byte.
-/

namespace SidScore

/-- Where an operand lies. -/
inductive Operand where
  /-- In a register. -/
  | register (r : Register)
  /-- In the instruction itself. -/
  | immediate (value : UInt8)
  /-- In memory.  For a jump or a branch the address is the target. -/
  | memory (address : UInt16)
  deriving Repr, DecidableEq, Inhabited

namespace Operand

/-- Reads the operand. -/
def load (o : Operand) (p : Processor) : BusProgram UInt8 :=
  match o with
  | register r => pure (p.get r)
  | immediate value => pure value
  | memory address => .readByte address

/-- Writes the operand.  The byte inside an instruction cannot be written. -/
def store (o : Operand) (value : UInt8) (p : Processor) :
    BusProgram (Except ExecutionFault Processor) :=
  match o with
  | register r => pure (.ok (p.set r value))
  | immediate _ => pure (.error (.readOnlyOperand p.fetchedAt))
  | memory address => .writeByte address value (.ok p)

/-- The address of an operand in memory. -/
def address? : Operand → Option UInt16
  | memory address => some address
  | register _ | immediate _ => none

end Operand

/-! ## Resolving a mode -/

/-- A resolved operand. -/
structure Located where
  /-- Where the operand lies. -/
  operand : Operand
  /-- Indexing led to another page than the base address. -/
  crossedPage : Bool
  deriving Repr, DecidableEq, Inhabited

namespace Located

/-- An operand reached without indexing a full address. -/
def direct (operand : Operand) : Located :=
  ⟨operand, false⟩

/-- The cell `index` beyond a base address. -/
def indexed (base : UInt16) (index : UInt8) : Located :=
  let effective := base + index.toUInt16
  ⟨.memory effective, !samePage base effective⟩

end Located

namespace BusProgram

/-- Reads a word, low byte first. -/
def readWord (address : UInt16) : BusProgram UInt16 := do
  let low ← readByte address
  let high ← readByte (address + 1)
  pure (wordOf low high)

/-- Reads a pointer in page zero; its high byte does not leave the page. -/
def readZeroPageWord (cell : UInt8) : BusProgram UInt16 := do
  let low ← readByte cell.toUInt16
  let high ← readByte (cell + 1).toUInt16
  pure (wordOf low high)

/-- Reads a pointer whose high byte lies on the page of its low byte. -/
def readPageWord (pointer : UInt16) : BusProgram UInt16 := do
  let low ← readByte pointer
  let high ← readByte ((pointer &&& 0xFF00) ||| ((pointer + 1) &&& 0x00FF))
  pure (wordOf low high)

end BusProgram

namespace Processor

open BusProgram

/-- Locates the operand of the instruction at the program counter. -/
def locate (p : Processor) (mode : Mode) : BusProgram Located :=
  match mode with
  | .implicit | .accumulator => pure (.direct (.register .accumulator))
  | .immediate => do
    let value ← readByte (p.pc + 1)
    pure (.direct (.immediate value))
  | .zeroPage => do
    let cell ← readByte (p.pc + 1)
    pure (.direct (.memory cell.toUInt16))
  | .zeroPageX => do
    let cell ← readByte (p.pc + 1)
    pure (.direct (.memory (cell + p.x).toUInt16))
  | .zeroPageY => do
    let cell ← readByte (p.pc + 1)
    pure (.direct (.memory (cell + p.y).toUInt16))
  | .relative => do
    let offset ← readByte (p.pc + 1)
    pure (.direct (.memory (p.pc + 2 + signExtend offset)))
  | .absolute => do
    let address ← readWord (p.pc + 1)
    pure (.direct (.memory address))
  | .absoluteX => do
    let base ← readWord (p.pc + 1)
    pure (.indexed base p.x)
  | .absoluteY => do
    let base ← readWord (p.pc + 1)
    pure (.indexed base p.y)
  | .indirect => do
    let pointer ← readWord (p.pc + 1)
    let target ← readPageWord pointer
    pure (.direct (.memory target))
  | .indirectX => do
    let cell ← readByte (p.pc + 1)
    let address ← readZeroPageWord (cell + p.x)
    pure (.direct (.memory address))
  | .indirectY => do
    let cell ← readByte (p.pc + 1)
    let base ← readZeroPageWord cell
    pure (.indexed base p.y)

end Processor

end SidScore
