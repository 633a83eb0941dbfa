import Mathlib.Tactic.Common
import SidScore.Proofs.Processor.Running

/-!
# What a run reads and writes

The addresses that a program puts on the bus depend on the answers that it gets, so they are told
for a program together with the memory that it runs on.  Those of a run of several instructions are
those of the instructions in turn; `Machine.after` goes on behind a fault, and so do `Machine.reads`
and `Machine.writes`.

The processor itself brings its registers, its flags, its cycle count and its policy to an
instruction, `Processor.SameState`.  Where it fetched the latest instruction is forgotten by the
next one.
-/

namespace SidScore

/-! ## Addresses on the bus -/

namespace BusProgram

variable {α M : Type} [Bus M]

/-- The addresses that a program reads when it runs on a memory, in order. -/
def reads : BusProgram α → M → List UInt16
  | done _, _ => []
  | read address next, memory =>
    address :: (next (Bus.read memory address).1).reads (Bus.read memory address).2
  | write address value next, memory => next.reads (Bus.write memory address value)

/-- The addresses that a program writes when it runs on a memory, in order. -/
def writes : BusProgram α → M → List UInt16
  | done _, _ => []
  | read address next, memory =>
    (next (Bus.read memory address).1).writes (Bus.read memory address).2
  | write address value next, memory => address :: next.writes (Bus.write memory address value)

end BusProgram

/-! ## Cells that are left alone -/

/-- A cell changes when it is written, and at no other time. -/
structure Bus.PlainCell (M : Type) [Bus M] (cell : UInt16) : Prop where
  read : ∀ (memory : M) (address : UInt16),
    (Bus.read (Bus.read memory address).2 cell).1 = (Bus.read memory cell).1
  write : ∀ (memory : M) (address : UInt16) (value : UInt8), address ≠ cell →
    (Bus.read (Bus.write memory address value) cell).1 = (Bus.read memory cell).1

/-- A program leaves the plain cells that it does not write. -/
lemma BusProgram.byte_run {α M : Type} [Bus M] {cell : UInt16} (plain : Bus.PlainCell M cell)
    (program : BusProgram α) {memory : M} (h : cell ∉ program.writes memory) :
    (Bus.read (program.run memory).2 cell).1 = (Bus.read memory cell).1 := by
  induction program generalizing memory with
  | done value => rfl
  | read address next ih =>
    rw [run]
    exact (ih _ h).trans (plain.read memory address)
  | write address value next ih =>
    obtain ⟨elsewhere, later⟩ := not_or.mp (mt List.mem_cons.mpr h)
    rw [run]
    exact (ih later).trans (plain.write memory address value (Ne.symm elsewhere))

/-! ## Addresses of a run -/

namespace Machine

variable {M : Type} [Bus M] (machine : Machine M)

/-- The addresses that a number of instructions read, in order. -/
def reads : ℕ → List UInt16
  | 0 => []
  | n + 1 => reads n ++ (machine.after n).cpu.step.reads (machine.after n).bus

/-- The addresses that a number of instructions write, in order. -/
def writes : ℕ → List UInt16
  | 0 => []
  | n + 1 => writes n ++ (machine.after n).cpu.step.writes (machine.after n).bus

lemma reads_succ (n : ℕ) : machine.reads (n + 1) =
    machine.reads n ++ (machine.after n).cpu.step.reads (machine.after n).bus :=
  rfl

lemma writes_succ (n : ℕ) : machine.writes (n + 1) =
    machine.writes n ++ (machine.after n).cpu.step.writes (machine.after n).bus :=
  rfl

end Machine

/-! ## What the processor brings -/

namespace Processor

/-- Two processors agree in all that an instruction can depend on. -/
structure SameState (p q : Processor) : Prop where
  a : p.a = q.a
  x : p.x = q.x
  y : p.y = q.y
  sp : p.sp = q.sp
  pc : p.pc = q.pc
  flags : p.flags = q.flags
  cycles : p.cycles = q.cycles
  exitPolicy : p.exitPolicy = q.exitPolicy

variable {p q : Processor}

lemma SameState.of_eq (h : p = q) : p.SameState q := by
  subst h
  exact ⟨rfl, rfl, rfl, rfl, rfl, rfl, rfl, rfl⟩

/-- Processors in the same state go through the same step. -/
lemma SameState.step_eq (h : p.SameState q) : p.step = q.step := by
  obtain ⟨a, x, y, sp, pc, flags, cycles, fetchedAt, exitPolicy⟩ := p
  obtain ⟨rfl, rfl, rfl, rfl, rfl, rfl, rfl, rfl⟩ := h
  -- Only `fetchedAt` differs, and fetching sets it.
  rfl

end Processor

end SidScore
