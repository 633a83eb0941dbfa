import SidScore.Processor.Step

/-!
# A processor on its bus

A machine pairs a processor with the memory that answers its accesses.  Running it is running the
processor's bus programs on that memory, one instruction after another.

The count of cycles is a word of 64 bits, and the program breaks off at a sum that exceeds it.
`Machine.step` is an instruction on a count that holds its cycles, and `Machine.countedStep` is
`none` where the count does not.  A run for a number of cycles breaks off there too, and before its
first instruction if the word cannot hold its target.  As long as it goes on, its count grows
towards the target, so it ends.
-/

namespace SidScore

/-- A processor and the memory on its bus. -/
structure Machine (M : Type) where
  /-- The processor. -/
  cpu : Processor
  /-- The memory. -/
  bus : M

namespace Machine

variable {M : Type} [Bus M]

/-- Starts a processor on a memory, at the address that the reset vector at `$FFFC` holds. -/
def powerOn (bus : M) : Machine M :=
  let (low, bus) := Bus.peek bus 0xFFFC
  let (high, bus) := Bus.peek bus 0xFFFD
  ⟨.powerOn (wordOf low high), bus⟩

/-- Carries out one instruction. -/
def step (machine : Machine M) : Except ExecutionFault Outcome × Machine M :=
  let (step, bus) := machine.cpu.step.run machine.bus
  (step.result, ⟨step.cpu, bus⟩)

/-- Reads an operand as an instruction would. -/
def load (machine : Machine M) (o : Operand) : UInt8 × Machine M :=
  let (value, bus) := (o.load machine.cpu).run machine.bus
  (value, { machine with bus })

/-- Writes an operand as an instruction would. -/
def store (machine : Machine M) (o : Operand) (value : UInt8) :
    Except ExecutionFault Unit × Machine M :=
  match (o.store value machine.cpu).run machine.bus with
  | (.ok cpu, bus) => (.ok (), ⟨cpu, bus⟩)
  | (.error fault, bus) => (.error fault, { machine with bus })

/-! ## Running -/

/-- The sum of a count and a number of cycles, if 64 bits hold it. -/
def addCycles? (count cycles : UInt64) : Option UInt64 :=
  if count.toNat + cycles.toNat < UInt64.size then some (count + cycles) else none

/-- Carries out one instruction, unless the count cannot hold its cycles.  An instruction that is
carried out costs a few of them, so the count has overflowed exactly if it has not grown; one that
is refused costs nothing. -/
def countedStep : Machine M → Option (Except ExecutionFault Outcome × Machine M)
  | ⟨cpu, bus⟩ =>
    match step ⟨cpu, bus⟩ with
    | (.ok outcome, next) =>
      if cpu.cycles < next.cpu.cycles then some (.ok outcome, next) else none
    | (.error fault, next) => some (.error fault, next)

theorem cycles_lt_of_countedStep {machine next : Machine M} {outcome : Outcome}
    (h : machine.countedStep = some (.ok outcome, next)) :
    machine.cpu.cycles < next.cpu.cycles := by
  simp only [countedStep] at h
  split at h
  next =>
    split at h
    next grown =>
      cases h
      exact grown
    next => cases h
  next => cases h

/-- Steps while the cycle count is below a target, and says how the last instruction ended. -/
def runToCycle (target : UInt64) (machine : Machine M) :
    Option (Except ExecutionFault Outcome × Machine M) :=
  if machine.cpu.cycles < target then
    match _ : machine.countedStep with
    | some (.ok .continued, next) => runToCycle target next
    | ended => ended
  else
    some (.ok .continued, machine)
termination_by target.toNat - machine.cpu.cycles.toNat
decreasing_by
  have grown := UInt64.lt_iff_toNat_lt.mp (cycles_lt_of_countedStep ‹machine.countedStep = _›)
  have below := UInt64.lt_iff_toNat_lt.mp ‹machine.cpu.cycles < target›
  omega

/-- How a run for a number of cycles ended. -/
structure CycleRun where
  /-- The cycles spent; the last instruction may exceed the budget. -/
  used : UInt64
  /-- How the last instruction ended. -/
  outcome : Outcome
  deriving Repr, DecidableEq, Inhabited

/-- Runs until a budget of cycles is spent, or a return ends the run. -/
def runForCycles (machine : Machine M) (budget : UInt64) :
    Option (Except ExecutionFault CycleRun × Machine M) := do
  let start := machine.cpu.cycles
  let target ← addCycles? start budget
  match ← runToCycle target machine with
  | (.ok outcome, machine) => pure (.ok ⟨machine.cpu.cycles - start, outcome⟩, machine)
  | (.error fault, machine) => pure (.error fault, machine)

end Machine

end SidScore
