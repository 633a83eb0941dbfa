import SidScore.Processor.Arithmetic
import SidScore.Processor.Mnemonic
import SidScore.Processor.Operand

/-!
# Instructions

What each mnemonic does to the processor and the bus, once its operand is located, the program
counter stands behind it and its base cost is paid.  The instructions fall into few shapes: those
that consume their operand, those that change it in place, stores, branches, and the ones that work
the stack.

## The stack

The stack is page one, growing downward, and its pointer wraps within the page.  A push writes and
then lowers the pointer; a pull raises it and then reads.  Words are pushed high byte first.
-/

namespace SidScore

/-- What an instruction leaves: the processor, and how the instruction ended. -/
structure Step where
  /-- The processor afterwards. -/
  cpu : Processor
  /-- How the instruction ended. -/
  result : Except ExecutionFault Outcome

/-- The instruction went through. -/
def Step.continued (p : Processor) : Step :=
  ⟨p, .ok .continued⟩

namespace Processor

open BusProgram

/-! ## The stack -/

/-- The cell of page one that a stack pointer names. -/
def stackCell (sp : UInt8) : UInt16 :=
  0x0100 ||| sp.toUInt16

/-- Pushes a byte. -/
def push (p : Processor) (value : UInt8) : BusProgram Processor :=
  writeByte (stackCell p.sp) value { p with sp := p.sp - 1 }

/-- Pulls a byte. -/
def pull (p : Processor) : BusProgram (UInt8 × Processor) := do
  let sp := p.sp + 1
  let value ← readByte (stackCell sp)
  pure (value, { p with sp })

/-- Pushes a word, high byte first. -/
def pushWord (p : Processor) (value : UInt16) : BusProgram Processor := do
  let p ← p.push (highByte value)
  p.push (lowByte value)

/-- Pulls a word, low byte first. -/
def pullWord (p : Processor) : BusProgram (UInt16 × Processor) := do
  let (low, p) ← p.pull
  let (high, p) ← p.pull
  pure (wordOf low high, p)

/-! ## The shapes of instructions -/

/-- Reads the operand and goes on with the processor it makes. -/
def consume (p : Processor) (o : Operand) (update : UInt8 → Processor) : BusProgram Step := do
  let value ← o.load p
  pure (.continued (update value))

/-- Reads the operand, and writes back the byte it makes, with its flags. -/
def modify (p : Processor) (o : Operand) (update : UInt8 → ByteResult) : BusProgram Step := do
  let value ← o.load p
  let (result, flags) := update value
  match ← o.store result p with
  | .ok p => pure (.continued { p with flags })
  | .error fault => pure ⟨p, .error fault⟩

/-- Writes a register into the operand. -/
def storeRegister (p : Processor) (r : Register) (o : Operand) : BusProgram Step := do
  match ← o.store (p.get r) p with
  | .ok p => pure (.continued p)
  | .error fault => pure ⟨p, .error fault⟩

/-- Puts an arithmetic result into the accumulator. -/
def accumulate (p : Processor) (r : ByteResult) : Processor :=
  { p with a := r.1, flags := r.2 }

/-- Puts a byte into a register and lets it set Zero and Negative. -/
def loadRegister (p : Processor) (r : Register) (value : UInt8) : Processor :=
  (p.set r value).noteResult value

/-- Goes to the operand's address, where it has one. -/
def jump (p : Processor) (o : Operand) : Processor :=
  match o.address? with
  | some target => { p with pc := target }
  | none => p

/-- Goes to the operand's address if the condition holds.  A taken branch costs a cycle, and one
more if it leaves the page of the next instruction. -/
def branch (p : Processor) (taken : Bool) (o : Operand) : Processor :=
  match taken, o.address? with
  | true, some target =>
    { p with pc := target, cycles := p.cycles + (if samePage p.pc target then 1 else 2) }
  | _, _ => p

/-! ## Calls and returns -/

/-- `JSR`: pushes the address of its own last byte and jumps. -/
def callSubroutine (p : Processor) (o : Operand) : BusProgram Step := do
  let p ← p.pushWord (p.pc - 1)
  pure (.continued (p.jump o))

/-- `RTS`: pulls the address that `JSR` pushed and goes behind it, unless the stack is empty. -/
def returnFromSubroutine (p : Processor) : BusProgram Step :=
  if p.exitPolicy.fires p.sp 2 then
    pure ⟨p, .ok (.finished .fromSubroutine)⟩
  else do
    let (address, p) ← p.pullWord
    pure (.continued { p with pc := address + 1 })

/-- `RTI`: pulls the status and the address to go on at, unless the stack is empty. -/
def returnFromInterrupt (p : Processor) : BusProgram Step :=
  if p.exitPolicy.fires p.sp 3 then
    pure ⟨p, .ok (.finished .fromInterrupt)⟩
  else do
    let (status, p) ← p.pull
    let (address, p) ← p.pullWord
    pure (.continued { p with pc := address, flags := .ofPulled status })

/-- `BRK`: pushes the address behind its padding byte and the status, holds interrupts off and goes
through the interrupt vector. -/
def softwareInterrupt (p : Processor) : BusProgram Step := do
  let status := p.flags.toPushed
  let p ← p.pushWord (p.pc + 1)
  let p ← p.push status
  let target ← readWord 0xFFFE
  pure (.continued { p with pc := target, flags.interruptDisable := true })

/-! ## All of them -/

/-- Carries out one instruction.  The last two mnemonics never get here: the step that fetches
them refuses them. -/
def execute (p : Processor) (mnemonic : Mnemonic) (o : Operand) : BusProgram Step :=
  match mnemonic with
  | .adc => p.consume o fun value => p.accumulate (p.flags.add p.a value)
  | .sbc => p.consume o fun value => p.accumulate (p.flags.subtract p.a value)
  | .and => p.consume o fun value => p.loadRegister .accumulator (p.a &&& value)
  | .ora => p.consume o fun value => p.loadRegister .accumulator (p.a ||| value)
  | .eor => p.consume o fun value => p.loadRegister .accumulator (p.a ^^^ value)
  | .cmp => p.consume o fun value => { p with flags := p.flags.compare p.a value }
  | .cpx => p.consume o fun value => { p with flags := p.flags.compare p.x value }
  | .cpy => p.consume o fun value => { p with flags := p.flags.compare p.y value }
  | .bit => p.consume o fun value => { p with flags := p.flags.testBits p.a value }
  | .lda => p.consume o (p.loadRegister .accumulator)
  | .ldx => p.consume o (p.loadRegister .indexX)
  | .ldy => p.consume o (p.loadRegister .indexY)
  | .sta => p.storeRegister .accumulator o
  | .stx => p.storeRegister .indexX o
  | .sty => p.storeRegister .indexY o
  | .asl => p.modify o p.flags.shiftLeft
  | .lsr => p.modify o p.flags.shiftRight
  | .rol => p.modify o p.flags.rotateLeft
  | .ror => p.modify o p.flags.rotateRight
  | .inc => p.modify o p.flags.increment
  | .dec => p.modify o p.flags.decrement
  | .inx => p.modify (.register .indexX) p.flags.increment
  | .iny => p.modify (.register .indexY) p.flags.increment
  | .dex => p.modify (.register .indexX) p.flags.decrement
  | .dey => p.modify (.register .indexY) p.flags.decrement
  | .bcc => pure (.continued (p.branch (!p.flags.carry) o))
  | .bcs => pure (.continued (p.branch p.flags.carry o))
  | .bne => pure (.continued (p.branch (!p.flags.zero) o))
  | .beq => pure (.continued (p.branch p.flags.zero o))
  | .bpl => pure (.continued (p.branch (!p.flags.negative) o))
  | .bmi => pure (.continued (p.branch p.flags.negative o))
  | .bvc => pure (.continued (p.branch (!p.flags.overflow) o))
  | .bvs => pure (.continued (p.branch p.flags.overflow o))
  | .jmp => pure (.continued (p.jump o))
  | .jsr => p.callSubroutine o
  | .rts => p.returnFromSubroutine
  | .rti => p.returnFromInterrupt
  | .brk => p.softwareInterrupt
  | .pha => do
    let p ← p.push p.a
    pure (.continued p)
  | .php => do
    let p ← p.push p.flags.toPushed
    pure (.continued p)
  | .pla => do
    let (value, p) ← p.pull
    pure (.continued (p.loadRegister .accumulator value))
  | .plp => do
    let (status, p) ← p.pull
    pure (.continued { p with flags := .ofPulled status })
  | .clc => pure (.continued { p with flags.carry := false })
  | .sec => pure (.continued { p with flags.carry := true })
  | .cli => pure (.continued { p with flags.interruptDisable := false })
  | .sei => pure (.continued { p with flags.interruptDisable := true })
  | .cld => pure (.continued { p with flags.decimal := false })
  | .sed => pure (.continued { p with flags.decimal := true })
  | .clv => pure (.continued { p with flags.overflow := false })
  | .tax => pure (.continued (p.loadRegister .indexX p.a))
  | .tay => pure (.continued (p.loadRegister .indexY p.a))
  | .tsx => pure (.continued (p.loadRegister .indexX p.sp))
  | .txa => pure (.continued (p.loadRegister .accumulator p.x))
  | .tya => pure (.continued (p.loadRegister .accumulator p.y))
  | .txs => pure (.continued (p.set .stackPointer p.x))
  | .nop | .jam | .undocumented => pure (.continued p)

end Processor

end SidScore
