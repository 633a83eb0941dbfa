import SidScore.Processor.Machine
import SidScore.Tune.Fault

/-!
# Running a routine to its end

A tune's routine is entered from an empty stack and ends in one of three ways: it returns, it jumps
into the system's interrupt exit, or, as the init routines of RSID tunes do, it settles in a jump
to itself and waits for interrupts.  A limit on the number of instructions makes the run end in any
case.  The limit only ever cuts a run off: up to it, the run is the same under every limit.
-/

namespace SidScore

/-- How a routine ended. -/
inductive Ending where
  /-- It returned from an empty stack. -/
  | returned (kind : Return)
  /-- It went on into the system's interrupt exit. -/
  | systemExit
  /-- It jumped to itself. -/
  | idle
  deriving Repr, DecidableEq, Inhabited

/-- A routine that ended. -/
structure RoutineRun where
  /-- The instructions carried out. -/
  instructions : Nat
  /-- How it ended. -/
  ending : Ending
  deriving Repr, DecidableEq, Inhabited

/-- The address belongs to the system's exit from interrupts. -/
def inSystemExit (address : UInt16) : Bool :=
  0xEA31 ≤ address && address ≤ 0xEA81

/-- How a routine ended with an instruction that went through at `before` and left the program
counter at `after`, if it did. -/
def Routine.ending? (routine : Routine) (before after : UInt16) : Outcome → Option Ending
  | .finished kind => some (.returned kind)
  | .continued =>
    if inSystemExit after then some .systemExit
    else if routine = .init ∧ after = before then some .idle
    else none

namespace Machine

variable {M : Type} [Bus M]

/-- Runs a routine that has carried out `executed` instructions for at most `fuel` more. -/
def runRoutineFrom (routine : Routine) (executed : Nat) :
    Nat → Machine M → Except TuneFault RoutineRun × Machine M
  | 0, machine => (.error (.runaway routine machine.cpu.pc executed), machine)
  | fuel + 1, machine =>
    let before := machine.cpu.pc
    match machine.step with
    | (.error fault, machine) => (.error (.execution fault), machine)
    | (.ok outcome, machine) =>
      match routine.ending? before machine.cpu.pc outcome with
      | some ending => (.ok ⟨executed + 1, ending⟩, machine)
      | none => runRoutineFrom routine (executed + 1) fuel machine

/-- Runs a routine for at most `limit` instructions. -/
def runRoutine (machine : Machine M) (routine : Routine) (limit : Nat) :
    Except TuneFault RoutineRun × Machine M :=
  machine.runRoutineFrom routine 0 limit

/-- Changes the memory. -/
def mapBus (machine : Machine M) (f : M → M) : Machine M :=
  let ⟨cpu, bus⟩ := machine
  ⟨cpu, f bus⟩

/-- Changes the processor. -/
def mapCpu (machine : Machine M) (f : Processor → Processor) : Machine M :=
  let ⟨cpu, bus⟩ := machine
  ⟨f cpu, bus⟩

end Machine

end SidScore
