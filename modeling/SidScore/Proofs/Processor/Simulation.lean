import SidScore.Proofs.Processor.Accesses

/-!
# Memories that answer alike

The processor knows of its memory only what it reads.  So if two memories give the same bytes, and
go on giving the same bytes after every access, the processor does the same on both, for as long as
it runs.  `Bus.Simulation` states the premise for a relation between memories of any two kinds, and
the lemmas carry it from one access to a bus program, an instruction and a routine.

A property of one memory that every access keeps is the special case of a memory beside itself,
`Bus.Keeps`.  Where two memories answer alike only at some addresses, `Bus.SimulationOn`, the
processor does the same on both for as long as it keeps to these.
-/

namespace SidScore

/-- Machines with the same processor and related memories. -/
structure Machine.Alike {M N : Type} (R : M → N → Prop) (first : Machine M) (second : Machine N) :
    Prop where
  cpu : first.cpu = second.cpu
  bus : R first.bus second.bus

variable {M N : Type} [Bus M] [Bus N]

/-- Related memories give the same byte at every read, and stay related. -/
structure Bus.Simulation (R : M → N → Prop) : Prop where
  read : ∀ {m : M} {n : N} (address : UInt16), R m n →
    (Bus.read m address).1 = (Bus.read n address).1 ∧
      R (Bus.read m address).2 (Bus.read n address).2
  write : ∀ {m : M} {n : N} (address : UInt16) (value : UInt8), R m n →
    R (Bus.write m address value) (Bus.write n address value)

/-- Every access keeps the property. -/
structure Bus.Keeps (P : M → Prop) : Prop where
  read : ∀ {m : M} (address : UInt16), P m → P (Bus.read m address).2
  write : ∀ {m : M} (address : UInt16) (value : UInt8), P m → P (Bus.write m address value)

lemma Bus.Keeps.simulation {P : M → Prop} (h : Bus.Keeps P) :
    Bus.Simulation fun m n : M => m = n ∧ P m where
  read := by
    rintro m _ address ⟨rfl, holds⟩
    exact ⟨rfl, rfl, h.read address holds⟩
  write := by
    rintro m _ address value ⟨rfl, holds⟩
    exact ⟨rfl, h.write address value holds⟩

/-- Related memories give the same byte at every read that is admitted, and stay related under every
access that is. -/
structure Bus.SimulationOn (reads writes : UInt16 → Prop) (R : M → N → Prop) : Prop where
  read : ∀ {m : M} {n : N} {address : UInt16}, reads address → R m n →
    (Bus.read m address).1 = (Bus.read n address).1 ∧
      R (Bus.read m address).2 (Bus.read n address).2
  write : ∀ {m : M} {n : N} {address : UInt16} (value : UInt8), writes address → R m n →
    R (Bus.write m address value) (Bus.write n address value)

variable {R : M → N → Prop}

lemma Bus.Simulation.on (h : Bus.Simulation R) :
    Bus.SimulationOn (fun _ => True) (fun _ => True) R where
  read _ := h.read _
  write value _ := h.write _ value

/-- A program on related memories, as long as its accesses are admitted: one value, and related
memories afterwards. -/
lemma Bus.SimulationOn.run {α : Type} {reads writes : UInt16 → Prop}
    (h : Bus.SimulationOn reads writes R) (program : BusProgram α) {m : M} {n : N}
    (related : R m n) (hreads : ∀ address ∈ program.reads m, reads address)
    (hwrites : ∀ address ∈ program.writes m, writes address) :
    (program.run m).1 = (program.run n).1 ∧ R (program.run m).2 (program.run n).2 := by
  induction program generalizing m n with
  | done value => exact ⟨rfl, related⟩
  | read address next ih =>
    rw [BusProgram.reads, List.forall_mem_cons] at hreads
    obtain ⟨same, after⟩ := h.read hreads.1 related
    simp only [BusProgram.run]
    rw [← same]
    exact ih _ after hreads.2 hwrites
  | write address value next ih =>
    rw [BusProgram.writes, List.forall_mem_cons] at hwrites
    exact ih (h.write value hwrites.1 related) hreads hwrites.2

/-- A program on related memories: one value, and related memories afterwards. -/
lemma Bus.Simulation.run {α : Type} (h : Bus.Simulation R) (program : BusProgram α) {m : M} {n : N}
    (related : R m n) :
    (program.run m).1 = (program.run n).1 ∧ R (program.run m).2 (program.run n).2 :=
  h.on.run program related (fun _ _ => trivial) fun _ _ => trivial

/-- **Instructions that keep to admitted addresses** come to the same on related memories, whether
they go through or fail. -/
lemma Processor.SameState.after {first : Machine M} {second : Machine N}
    (state : first.cpu.SameState second.cpu) {reads writes : UInt16 → Prop}
    (simulation : Bus.SimulationOn reads writes R) (related : R first.bus second.bus) {n : ℕ}
    (hreads : ∀ address ∈ first.reads n, reads address)
    (hwrites : ∀ address ∈ first.writes n, writes address) :
    (∀ k < n, (first.after k).step.1 = (second.after k).step.1) ∧
      (first.after n).cpu.SameState (second.after n).cpu ∧
      R (first.after n).bus (second.after n).bus := by
  induction n with
  | zero => exact ⟨fun k hk => absurd hk k.not_lt_zero, state, related⟩
  | succ n ih =>
    rw [Machine.reads_succ, List.forall_mem_append] at hreads
    rw [Machine.writes_succ, List.forall_mem_append] at hwrites
    obtain ⟨outcomes, state, related⟩ := ih hreads.1 hwrites.1
    obtain ⟨same, after⟩ := simulation.run _ related hreads.2 hwrites.2
    -- The second machine runs the bus program of the first.
    have second_step : (second.after n).step =
        (((first.after n).cpu.step.run (second.after n).bus).1.result,
          ⟨((first.after n).cpu.step.run (second.after n).bus).1.cpu,
            ((first.after n).cpu.step.run (second.after n).bus).2⟩) := by
      rw [state.step_eq]
      rfl
    refine ⟨?_, ?_, ?_⟩
    · intro k hk
      rcases Nat.lt_succ_iff_lt_or_eq.mp hk with earlier | rfl
      · exact outcomes k earlier
      · rw [second_step]
        exact congrArg Step.result same
    · rw [Machine.after_succ, Machine.after_succ, second_step]
      exact .of_eq (congrArg Step.cpu same)
    · rw [Machine.after_succ, Machine.after_succ, second_step]
      exact after

namespace Machine

variable {first : Machine M} {second : Machine N}

/-- An instruction. -/
lemma Alike.step (h : first.Alike R second) (simulation : Bus.Simulation R) :
    first.step.1 = second.step.1 ∧ first.step.2.Alike R second.step.2 := by
  obtain ⟨same, after⟩ := simulation.run first.cpu.step h.bus
  rw [h.cpu] at same after
  simp only [Machine.step, h.cpu]
  exact ⟨congrArg Step.result same, congrArg Step.cpu same, after⟩

/-- A routine. -/
lemma Alike.runRoutineFrom (h : first.Alike R second) (simulation : Bus.Simulation R)
    (routine : Routine) (executed fuel : ℕ) :
    (first.runRoutineFrom routine executed fuel).1 =
        (second.runRoutineFrom routine executed fuel).1 ∧
      (first.runRoutineFrom routine executed fuel).2.Alike R
        (second.runRoutineFrom routine executed fuel).2 := by
  induction fuel generalizing executed first second with
  | zero =>
    refine ⟨?_, h⟩
    simp only [Machine.runRoutineFrom, h.cpu]
  | succ fuel ih =>
    obtain ⟨same, after⟩ := h.step simulation
    simp only [Machine.runRoutineFrom]
    rcases hfirst : first.step with ⟨outcome, next⟩
    rcases hsecond : second.step with ⟨outcome', next'⟩
    rw [hfirst, hsecond] at same after
    obtain rfl : outcome = outcome' := same
    cases outcome with
    | error fault => exact ⟨rfl, after⟩
    | ok outcome =>
      have cpu : next.cpu = next'.cpu := after.cpu
      simp only [h.cpu, cpu]
      cases routine.ending? second.cpu.pc next'.cpu.pc outcome with
      | some ending => exact ⟨rfl, after⟩
      | none => exact ih after (executed + 1)

lemma Alike.runRoutine (h : first.Alike R second) (simulation : Bus.Simulation R)
    (routine : Routine) (limit : ℕ) :
    (first.runRoutine routine limit).1 = (second.runRoutine routine limit).1 ∧
      (first.runRoutine routine limit).2.Alike R (second.runRoutine routine limit).2 :=
  h.runRoutineFrom simulation routine 0 limit

/-- A property that accesses keep is kept by routines. -/
lemma keeps_runRoutine {P : M → Prop} (h : Bus.Keeps P) {machine : Machine M}
    (holds : P machine.bus) (routine : Routine) (limit : ℕ) :
    P (machine.runRoutine routine limit).2.bus :=
  have beside : machine.Alike (fun m n => m = n ∧ P m) machine := ⟨rfl, rfl, holds⟩
  (beside.runRoutine h.simulation routine limit).2.bus.2

end Machine

end SidScore
