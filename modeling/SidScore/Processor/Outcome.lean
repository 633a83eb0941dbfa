import SidScore.Word

/-!
# How an instruction ends

An instruction goes through, or ends the run because it was the return of the routine that was
called, or is at fault.  The three causes of a fault each name the address of the instruction.
-/

namespace SidScore

/-- The two instructions that return to a caller. -/
inductive Return where
  /-- `RTS`, which pulls two bytes. -/
  | fromSubroutine
  /-- `RTI`, which pulls three. -/
  | fromInterrupt
  deriving Repr, DecidableEq, Inhabited

/-- The assembler name of a return. -/
def Return.name : Return → String
  | fromSubroutine => "RTS"
  | fromInterrupt => "RTI"

/-- How an instruction that was carried out ends. -/
inductive Outcome where
  /-- The run goes on. -/
  | continued
  /-- A return found the stack empty, and the run is over. -/
  | finished (kind : Return)
  deriving Repr, DecidableEq, Inhabited

/-- Why an instruction was not carried out. -/
inductive ExecutionFault where
  /-- The opcode is undocumented and has side effects that are not modelled. -/
  | unimplementedOpcode (opcode : UInt8) (address : UInt16)
  /-- The opcode locks the processor up. -/
  | halted (opcode : UInt8) (address : UInt16)
  /-- A value was to be stored into the operand of an immediate instruction. -/
  | readOnlyOperand (address : UInt16)
  deriving Repr, DecidableEq, Inhabited

/-- The wording of a fault. -/
def ExecutionFault.message : ExecutionFault → String
  | unimplementedOpcode opcode address =>
    "opcode 0x" ++ hexByte opcode ++ " at $" ++ hexWord address ++ " is not implemented"
  | halted opcode address =>
    "halt opcode 0x" ++ hexByte opcode ++ " executed at $" ++ hexWord address
  | readOnlyOperand address =>
    "store into immediate operand of instruction at $" ++ hexWord address

end SidScore
