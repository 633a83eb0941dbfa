import SidScore.Proofs.Processor.Accesses
import SidScore.Proofs.Processor.Stepping

/-!
# A step on any bus

What the rules say of a step on plain memory depends on its bytes.  What is said here does not: on
every bus a step fetches a byte, locates an operand if the byte is an instruction, and carries the
instruction out, `Machine.step_eq_execute`.  The accesses of the step are those of the three parts
in turn, and locating writes nothing.
-/

namespace SidScore

namespace BusProgram

variable {α β M : Type} [Bus M]

lemma writes_bind (first : BusProgram α) (second : α → BusProgram β) (memory : M) :
    (first >>= second).writes memory =
      first.writes memory ++ (second (first.run memory).1).writes (first.run memory).2 := by
  induction first generalizing memory with
  | done value => rfl
  | read address next ih => exact ih _ _
  | write address value next ih => exact congrArg (address :: ·) (ih _)

end BusProgram

/-- An instruction has at least one byte, and not so many that it could reach around to itself. -/
lemma Opcode.size_toNat_bounds (code : UInt8) :
    0 < (decode code).size.toNat ∧ (decode code).size.toNat ≤ 3 := by
  have rows : ∀ op ∈ matrix.toList, 0 < op.size.toNat ∧ op.size.toNat ≤ 3 := by
    decide +kernel
  exact rows _ (decode_mem code)

lemma Processor.writes_locate {M : Type} [Bus M] (p : Processor) (mode : Mode) (memory : M) :
    (p.locate mode).writes memory = [] := by
  cases mode <;> rfl

/-- An operand is located by the program counter and the indices. -/
lemma Processor.locate_congr {p q : Processor} (pc : p.pc = q.pc) (x : p.x = q.x) (y : p.y = q.y)
    (mode : Mode) : p.locate mode = q.locate mode := by
  cases mode <;> simp only [locate, pc, x, y]

/-- Only the byte inside an instruction is no place to write to. -/
lemma Processor.locate_writable (p : Processor) {mode : Mode} (h : mode ≠ .immediate) :
    (p.locate mode).Always fun located => located.operand.Writable := by
  cases mode with
  | immediate => exact absurd rfl h
  | implicit | accumulator => trivial
  | zeroPage | zeroPageX | zeroPageY | relative => exact fun _ => trivial
  | absolute | absoluteX | absoluteY => exact fun _ _ => trivial
  | indirectX | indirectY => exact fun _ _ _ => trivial
  | indirect => exact fun _ _ _ _ => trivial

namespace Machine

variable {M : Type} [Bus M] (machine : Machine M)

/-- The byte that the processor fetches next. -/
def code : UInt8 :=
  (Bus.read machine.bus machine.cpu.pc).1

/-- The row of the opcode that the processor fetches next. -/
def fetched : Opcode :=
  .decode (Bus.read machine.bus machine.cpu.pc).1

/-- The next instruction. -/
def next : Mnemonic :=
  machine.fetched.mnemonic

/-- The processor as the next instruction is carried out by. -/
def ready (crossedPage : Bool) : Processor :=
  { machine.cpu with fetchedAt := machine.cpu.pc }.advance machine.fetched crossedPage

/-- The operand of the next instruction, and the memory after it was found. -/
def located : Located × M :=
  ({ machine.cpu with fetchedAt := machine.cpu.pc }.locate machine.fetched.mode).run
    (Bus.read machine.bus machine.cpu.pc).2

/-- The next instruction, with its operand located, as a program for the bus. -/
def execution : BusProgram Step :=
  (machine.ready machine.located.1.crossedPage).execute machine.next machine.located.1.operand

variable {machine}

/-- An instruction that can run is carried out where its operand was located. -/
lemma step_eq_execute (executable : machine.next.isExecutable = true) :
    machine.step = ((machine.execution.run machine.located.2).1.result,
      ⟨(machine.execution.run machine.located.2).1.cpu,
        (machine.execution.run machine.located.2).2⟩) := by
  obtain ⟨cpu, memory⟩ := machine
  have ran : cpu.step.run memory =
      (cpu.dispatch (Bus.read memory cpu.pc).1).run (Bus.read memory cpu.pc).2 := rfl
  rw [Machine.step, ran, cpu.dispatch_eq executable, BusProgram.run_bind]
  rfl

/-- A step writes what its instruction writes. -/
lemma writes_step (executable : machine.next.isExecutable = true) :
    machine.cpu.step.writes machine.bus = machine.execution.writes machine.located.2 := by
  obtain ⟨cpu, memory⟩ := machine
  have ran : cpu.step.writes memory =
      (cpu.dispatch (Bus.read memory cpu.pc).1).writes (Bus.read memory cpu.pc).2 := rfl
  rw [ran, cpu.dispatch_eq executable, BusProgram.writes_bind, Processor.writes_locate]
  rfl

lemma located_writable (writes : machine.next.writesBack = true) :
    machine.located.1.operand.Writable := by
  have mode : machine.fetched.mode ≠ .immediate := (Opcode.decode_consistent _).writes writes
  exact (Processor.locate_writable _ mode).run _

end Machine

end SidScore
