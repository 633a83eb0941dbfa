import SidScore.Processor.Instruction
import SidScore.Processor.Opcode

/-!
# One step

Fetch, decode, locate the operand, pay, execute.  An opcode that cannot run is refused right after
its byte was read: nothing but the address of the latest fetch has changed then.
-/

namespace SidScore

/-- The fault that an opcode byte raises by itself. -/
def Opcode.refusal? (op : Opcode) (code : UInt8) (address : UInt16) : Option ExecutionFault :=
  match op.mnemonic with
  | .jam => some (.halted code address)
  | .undocumented => some (.unimplementedOpcode code address)
  | _ => none

namespace Processor

/-- Moves behind an instruction and pays for it. -/
def advance (p : Processor) (op : Opcode) (crossedPage : Bool) : Processor :=
  { p with
    pc := p.pc + op.size.toUInt16
    cycles := p.cycles + op.cycles.toUInt64 + (if crossedPage && op.pagePenalty then 1 else 0) }

/-- Carries out the instruction whose opcode byte was fetched at the program counter. -/
def dispatch (p : Processor) (code : UInt8) : BusProgram Step :=
  let op := Opcode.decode code
  let p := { p with fetchedAt := p.pc }
  match op.refusal? code p.pc with
  | some fault => pure ⟨p, .error fault⟩
  | none => do
    let located ← p.locate op.mode
    (p.advance op located.crossedPage).execute op.mnemonic located.operand

/-- One instruction. -/
def step (p : Processor) : BusProgram Step :=
  .read p.pc p.dispatch

end Processor

end SidScore
