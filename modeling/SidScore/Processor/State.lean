import SidScore.Processor.Flags

/-!
# The processor's registers

Everything the processor holds, memory excluded.  Besides the programmer's registers there are
three fields: a count of cycles, the address from which the instruction at work was fetched, which
error messages name, and the policy by which a return from an empty stack ends a run.

## The exit policy

A music routine is entered with nothing on the stack, so its last return has no caller.  The
policy recognises such a return by where its pulls would leave the stack pointer: past `$FF` and
into the lowest few positions.  The width of that zone is a heuristic, because some players leave
stray bytes behind.
-/

namespace SidScore

/-- When a return from an empty stack ends the run. -/
structure ExitPolicy where
  /-- Returns are examined at all. -/
  enabled : Bool
  /-- A return that would leave the stack pointer below this value ends the run. -/
  wrapZone : UInt8
  deriving Repr, DecidableEq, Inhabited

namespace ExitPolicy

/-- The usual width of the zone. -/
def defaultWrapZone : UInt8 := 8

/-- Returns end the run when they would leave the stack pointer in the zone. -/
def whenStackEmpty (wrapZone : UInt8) : ExitPolicy :=
  ⟨true, wrapZone⟩

/-- Returns always pull, as the hardware's do. -/
def disabled : ExitPolicy :=
  ⟨false, defaultWrapZone⟩

/-- A return that pulls `pulls` bytes with the stack pointer at `sp` ends the run. -/
def fires (policy : ExitPolicy) (sp pulls : UInt8) : Bool :=
  policy.enabled && sp + pulls < policy.wrapZone

end ExitPolicy

/-- The byte registers that an instruction can name. -/
inductive Register where
  /-- `A`. -/
  | accumulator
  /-- `X`. -/
  | indexX
  /-- `Y`. -/
  | indexY
  /-- `SP`. -/
  | stackPointer
  deriving Repr, DecidableEq, Inhabited

/-- The state of the processor. -/
structure Processor where
  /-- The accumulator. -/
  a : UInt8
  /-- The `X` index. -/
  x : UInt8
  /-- The `Y` index. -/
  y : UInt8
  /-- The stack pointer, an offset into page one. -/
  sp : UInt8
  /-- The address of the next instruction. -/
  pc : UInt16
  /-- The status flags. -/
  flags : Flags
  /-- The cycles spent since the count was last cleared. -/
  cycles : UInt64
  /-- The address the latest instruction was fetched from. -/
  fetchedAt : UInt16
  /-- When a return ends the run. -/
  exitPolicy : ExitPolicy
  deriving Repr, DecidableEq, Inhabited

namespace Processor

/-- The state after power-on, with the program counter that the reset vector gives. -/
def powerOn (entry : UInt16) : Processor where
  a := 0
  x := 0
  y := 0
  sp := 0xFD
  pc := entry
  flags := .powerOn
  cycles := 0
  fetchedAt := entry
  exitPolicy := .disabled

/-- The packed status byte. -/
def status (p : Processor) : UInt8 :=
  p.flags.toByte

/-- Enters a routine from an empty stack, with chosen registers and flags.  Break starts clear. -/
def reset (p : Processor) (entry : UInt16) (a x y status : UInt8) : Processor :=
  { p with pc := entry, a, x, y, flags := .ofPulled status, sp := 0xFF, cycles := 0 }

/-- Enters a routine from an empty stack and leaves registers and flags as they are. -/
def prepareCall (p : Processor) (entry : UInt16) : Processor :=
  { p with pc := entry, sp := 0xFF, cycles := 0 }

/-- The value of a register. -/
def get (p : Processor) : Register → UInt8
  | .accumulator => p.a
  | .indexX => p.x
  | .indexY => p.y
  | .stackPointer => p.sp

/-- Puts a value into a register.  No flag changes. -/
def set (p : Processor) (r : Register) (value : UInt8) : Processor :=
  match r with
  | .accumulator => { p with a := value }
  | .indexX => { p with x := value }
  | .indexY => { p with y := value }
  | .stackPointer => { p with sp := value }

/-- Lets a result byte set Zero and Negative. -/
def noteResult (p : Processor) (result : UInt8) : Processor :=
  { p with flags := p.flags.withResult result }

end Processor

end SidScore
