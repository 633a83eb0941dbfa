import Mathlib.Order.Bounds.Basic
import SidScore.Proofs.Processor.Faults
import SidScore.Proofs.Processor.Running

/-!
# A budget of cycles

An instruction that goes through costs at least two cycles and at most seven.  The lower bound ends
every run that has a budget, after no more than half as many instructions as there are cycles to
spend, and the upper bound keeps what is spent beyond the budget below seven.

The count of cycles is a word of 64 bits, and so is the target, the sum of the count and the budget.
`Machine.spent` counts without that limit, so it tells where the limit is exceeded: there a run
breaks off, which is `Machine.BreaksOff`.  Every other run comes to what `Machine.Spends` says.
-/

namespace SidScore

/-! ## What an instruction costs -/

/-- A row that can run costs at least two cycles, and at most seven with every surcharge. -/
lemma Opcode.cycles_bounds {code : UInt8} (executable : (decode code).isExecutable = true) :
    2 ≤ (decode code).cycles.toNat ∧
      (decode code).cycles.toNat + (decode code).pagePenalty.toNat +
        2 * (decode code).mnemonic.condition?.isSome.toNat ≤ 7 := by
  have rows : ∀ op ∈ matrix.toList, op.isExecutable = true → 2 ≤ op.cycles.toNat ∧
      op.cycles.toNat + op.pagePenalty.toNat + 2 * op.mnemonic.condition?.isSome.toNat ≤ 7 := by
    decide +kernel
  exact rows _ (decode_mem code) executable

/-- Beyond its row an instruction costs nothing, unless it is a branch. -/
lemma Processor.execute_cycles (p : Processor) {mnemonic : Mnemonic} {o : Operand}
    (writable : mnemonic.writesBack = true → o.Writable) :
    (p.execute mnemonic o).Always fun step => ∃ extra ≤ 2 * mnemonic.condition?.isSome.toNat,
      step.cpu.cycles = p.cycles + UInt64.ofNat extra := by
  cases conditional : mnemonic.condition? with
  | some condition =>
    rw [execute_branch p conditional]
    show ∃ extra ≤ 2, (p.branch _ o).cycles = _
    unfold branch
    split
    · split
      · exact ⟨1, by omega, rfl⟩
      · exact ⟨2, by omega, rfl⟩
    · exact ⟨0, by omega, (UInt64.add_zero _).symm⟩
  | none =>
    cases transfers : mnemonic.transfers with
    | true =>
      refine (p.execute_transfer transfers).imp fun step ended => ⟨0, Nat.zero_le _, ?_⟩
      exact ended.2.trans (UInt64.add_zero _).symm
    | false =>
      have untaken : mnemonic.branches p.flags = false := by
        rw [Mnemonic.branches, conditional]
        rfl
      refine (p.execute_goesOn transfers untaken writable).imp fun step goesOn =>
        ⟨0, Nat.zero_le _, ?_⟩
      exact goesOn.cycles.trans (UInt64.add_zero _).symm

namespace Machine

variable {M : Type} [Bus M] (machine : Machine M)

/-- The cycles that the next step takes. -/
def stepCycles : ℕ :=
  (machine.step.2.cpu.cycles - machine.cpu.cycles).toNat

/-- The cycles that a number of instructions take, on no matter how wide a count. -/
def spent : ℕ → ℕ
  | 0 => 0
  | n + 1 => spent n + (machine.after n).stepCycles

lemma spent_succ (n : ℕ) :
    machine.spent (n + 1) = machine.spent n + (machine.after n).stepCycles :=
  rfl

variable {machine}

lemma cycles_ready (crossedPage : Bool) : (machine.ready crossedPage).cycles =
    machine.cpu.cycles + UInt64.ofNat (machine.fetched.cycles.toNat +
      (crossedPage && machine.fetched.pagePenalty).toNat) := by
  have row : machine.fetched.cycles.toUInt64 = UInt64.ofNat machine.fetched.cycles.toNat :=
    (UInt64.ofNat_uInt8ToNat _).symm
  rw [ready, Processor.advance, row, UInt64.ofNat_add, ← UInt64.add_assoc]
  cases crossedPage && machine.fetched.pagePenalty <;> rfl

lemma stepCycles_bounds (executable : machine.next.isExecutable = true) :
    2 ≤ machine.stepCycles ∧ machine.stepCycles ≤ 7 := by
  have carriedOut := (machine.ready machine.located.1.crossedPage).execute_cycles
    (o := machine.located.1.operand) located_writable
  obtain ⟨extra, few, cycles⟩ := carriedOut.run machine.located.2
  set row := machine.fetched.cycles.toNat +
    (machine.located.1.crossedPage && machine.fetched.pagePenalty).toNat with hrow
  have total : machine.stepCycles = (row + extra) % 2 ^ 64 := by
    rw [stepCycles, step_eq_execute executable]
    show ((machine.execution.run machine.located.2).1.cpu.cycles - _).toNat = _
    rw [execution, cycles, cycles_ready, ← hrow, UInt64.add_assoc, ← UInt64.ofNat_add,
      UInt64.add_comm, UInt64.add_sub_cancel, UInt64.toNat_ofNat']
  obtain ⟨least, most⟩ : 2 ≤ machine.fetched.cycles.toNat ∧
      machine.fetched.cycles.toNat + machine.fetched.pagePenalty.toNat +
        2 * machine.next.condition?.isSome.toNat ≤ 7 := Opcode.cycles_bounds executable
  have surcharge : (machine.located.1.crossedPage && machine.fetched.pagePenalty).toNat ≤
      machine.fetched.pagePenalty.toNat := by
    cases machine.located.1.crossedPage <;> simp
  rw [total]
  omega

/-- What is refused costs nothing. -/
lemma stepCycles_of_error {fault : ExecutionFault} (h : machine.step.1 = .error fault) :
    machine.stepCycles = 0 := by
  have refused := (step_refused (step_eq_error_iff.mp h)).1
  rw [stepCycles, refused]
  simp

lemma stepCycles_le (machine : Machine M) : machine.stepCycles ≤ 7 := by
  cases result : machine.step.1 with
  | ok outcome => exact (stepCycles_bounds (isExecutable_of_ok result)).2
  | error fault => exact (stepCycles_of_error result).trans_le (Nat.zero_le _)

lemma toNat_cycles_step (machine : Machine M) : machine.step.2.cpu.cycles.toNat =
    (machine.cpu.cycles.toNat + machine.stepCycles) % 2 ^ 64 := by
  have cost : machine.step.2.cpu.cycles =
      machine.cpu.cycles + UInt64.ofNat machine.stepCycles := by
    rw [stepCycles, UInt64.ofNat_toNat, UInt64.add_comm, UInt64.sub_add_cancel]
  rw [cost, UInt64.toNat_add, UInt64.toNat_ofNat', Nat.add_mod_mod]

lemma countedStep_of_ok {outcome : Outcome} (h : machine.step.1 = .ok outcome) :
    machine.countedStep =
      if machine.cpu.cycles < machine.step.2.cpu.cycles then some machine.step else none := by
  have stepped : machine.step = (.ok outcome, machine.step.2) := Prod.ext h rfl
  obtain ⟨cpu, bus⟩ := machine
  rw [countedStep, stepped]

lemma countedStep_of_error {fault : ExecutionFault} (h : machine.step.1 = .error fault) :
    machine.countedStep = some machine.step := by
  have stepped : machine.step = (.error fault, machine.step.2) := Prod.ext h rfl
  obtain ⟨cpu, bus⟩ := machine
  rw [countedStep, stepped]

/-- The count grows exactly if it holds the cycles of the instruction. -/
lemma cycles_lt_iff {outcome : Outcome} (h : machine.step.1 = .ok outcome) :
    machine.cpu.cycles < machine.step.2.cpu.cycles ↔
      machine.cpu.cycles.toNat + machine.stepCycles < 2 ^ 64 := by
  have cost := stepCycles_bounds (isExecutable_of_ok h)
  have bound := machine.cpu.cycles.toNat_lt
  rw [UInt64.lt_iff_toNat_lt, toNat_cycles_step]
  omega

/-- An instruction is carried out as it is without a count exactly if the count holds its cycles. -/
lemma countedStep_eq (machine : Machine M) : machine.countedStep =
    if machine.cpu.cycles.toNat + machine.stepCycles < 2 ^ 64 then some machine.step else none := by
  cases result : machine.step.1 with
  | ok outcome => simp only [countedStep_of_ok result, cycles_lt_iff result]
  | error fault =>
    rw [countedStep_of_error result, stepCycles_of_error result, Nat.add_zero,
      if_pos machine.cpu.cycles.toNat_lt]

/-- The count is what was spent, as far as 64 bits hold it. -/
lemma toNat_cycles_after (n : ℕ) : (machine.after n).cpu.cycles.toNat =
    (machine.cpu.cycles.toNat + machine.spent n) % 2 ^ 64 := by
  induction n with
  | zero => exact (Nat.mod_eq_of_lt machine.cpu.cycles.toNat_lt).symm
  | succ n ih => rw [after_succ, toNat_cycles_step, ih, spent_succ, Nat.mod_add_mod, Nat.add_assoc]

/-! ## Runs under a budget -/

/-- The instruction after the first `n` goes through, and there are cycles left for it. -/
def Affords (machine : Machine M) (budget n : ℕ) : Prop :=
  machine.spent n < budget ∧ (machine.after n).step.1 = .ok .continued

/-- What a run comes to that has a number of cycles to spend. -/
inductive Spends (machine : Machine M) (budget : ℕ) :
    Except ExecutionFault CycleRun × Machine M → Prop where
  /-- It stops as soon as they are spent, and its last instruction may take up to six more. -/
  | spent {n : ℕ} {run : CycleRun} (few : n ≤ budget / 2 + 1)
    (goesOn : ∀ k < n, machine.Affords budget k) (enough : budget ≤ machine.spent n)
    (excess : machine.spent n ≤ budget + 6) (used : run.used.toNat = machine.spent n)
    (outcome : run.outcome = .continued) : Spends machine budget (.ok run, machine.after n)
  /-- A return ends it while there are cycles left. -/
  | finished {n : ℕ} {kind : Return} {run : CycleRun} (few : n + 1 ≤ budget / 2 + 1)
    (goesOn : ∀ k < n, machine.Affords budget k) (left : machine.spent n < budget)
    (finishes : (machine.after n).step.1 = .ok (.finished kind))
    (used : run.used.toNat = machine.spent (n + 1)) (outcome : run.outcome = .finished kind) :
    Spends machine budget (.ok run, machine.after (n + 1))
  /-- An instruction fails while there are cycles left. -/
  | failed {n : ℕ} {fault : ExecutionFault} (few : n + 1 ≤ budget / 2 + 1)
    (goesOn : ∀ k < n, machine.Affords budget k) (left : machine.spent n < budget)
    (fails : (machine.after n).step.1 = .error fault) :
    Spends machine budget (.error fault, machine.after (n + 1))

/-- Where a run breaks off that has a number of cycles to spend. -/
inductive BreaksOff (machine : Machine M) (budget : ℕ) : Prop where
  /-- Before the first instruction, because 64 bits do not hold the target. -/
  | target (exceeds : 2 ^ 64 ≤ machine.cpu.cycles.toNat + budget)
  /-- At an instruction that it comes to with cycles left, because 64 bits do not hold the count. -/
  | count {n : ℕ} (few : n + 1 ≤ budget / 2 + 1) (goesOn : ∀ k < n, machine.Affords budget k)
    (left : machine.spent n < budget)
    (exceeds : 2 ^ 64 ≤ machine.cpu.cycles.toNat + machine.spent (n + 1))

variable {budget n : ℕ}

lemma Affords.stepCycles_bounds (h : machine.Affords budget n) :
    2 ≤ (machine.after n).stepCycles ∧ (machine.after n).stepCycles ≤ 7 :=
  Machine.stepCycles_bounds (isExecutable_of_ok h.2)

/-- Half of what was spent bounds the instructions. -/
lemma two_mul_le_spent (goesOn : ∀ k < n, machine.Affords budget k) :
    2 * n ≤ machine.spent n := by
  induction n with
  | zero => exact Nat.zero_le _
  | succ n ih =>
    obtain ⟨before, last⟩ := Nat.forall_lt_succ_right.mp goesOn
    have earlier := ih before
    have cost := last.stepCycles_bounds
    rw [spent_succ]
    omega

/-- The last instruction began with a cycle to spend. -/
lemma spent_le (goesOn : ∀ k < n, machine.Affords budget k) : machine.spent n ≤ budget + 6 := by
  cases n with
  | zero => exact Nat.zero_le _
  | succ n =>
    obtain ⟨-, last⟩ := Nat.forall_lt_succ_right.mp goesOn
    have cost := last.stepCycles_bounds
    have left := last.1
    rw [spent_succ]
    omega

/-- Within the bound on the instructions there is one where the run stops. -/
lemma exists_stop (machine : Machine M) (budget : ℕ) : ∃ n ≤ budget / 2 + 1,
    (∀ k < n, machine.Affords budget k) ∧ (budget ≤ machine.spent n ∨
      n < budget / 2 + 1 ∧ machine.spent n < budget ∧
        (machine.after n).step.1 ≠ .ok .continued) := by
  rcases forall_lt_or_first (machine.Affords budget) (budget / 2 + 1) with
    all | ⟨n, hn, goesOn, stops⟩
  · have most := two_mul_le_spent all
    exact ⟨budget / 2 + 1, le_rfl, all, .inl (by omega)⟩
  · refine ⟨n, hn.le, goesOn, ?_⟩
    by_cases left : machine.spent n < budget
    · exact .inr ⟨hn, left, fun continues => stops ⟨left, continues⟩⟩
    · exact .inl (Nat.le_of_not_lt left)

/-- A run that does not break off has room for every count that it comes to. -/
lemma count_lt (holds : ¬ machine.BreaksOff budget) (goesOn : ∀ k < n, machine.Affords budget k) :
    machine.cpu.cycles.toNat + machine.spent n < 2 ^ 64 := by
  cases n with
  | zero => exact machine.cpu.cycles.toNat_lt
  | succ n =>
    obtain ⟨before, last⟩ := Nat.forall_lt_succ_right.mp goesOn
    have most := two_mul_le_spent before
    have left := last.1
    refine Nat.lt_of_not_le fun exceeds => holds (.count ?_ before left exceeds)
    omega

lemma toNat_cycles_after_of_lt (count : machine.cpu.cycles.toNat + machine.spent n < 2 ^ 64) :
    (machine.after n).cpu.cycles.toNat = machine.cpu.cycles.toNat + machine.spent n := by
  rw [toNat_cycles_after, Nat.mod_eq_of_lt count]

/-- An instruction of the run is carried out exactly if there is room for the next count. -/
lemma countedStep_after (count : machine.cpu.cycles.toNat + machine.spent n < 2 ^ 64) :
    (machine.after n).countedStep =
      if machine.cpu.cycles.toNat + machine.spent (n + 1) < 2 ^ 64 then
        some (machine.after n).step else none := by
  rw [countedStep_eq, toNat_cycles_after_of_lt count, Nat.add_assoc, ← spent_succ]

/-- The target is above the count exactly as long as there are cycles left. -/
lemma lt_target_iff {budget : UInt64}
    (target : machine.cpu.cycles.toNat + budget.toNat < 2 ^ 64)
    (count : machine.cpu.cycles.toNat + machine.spent n < 2 ^ 64) :
    (machine.after n).cpu.cycles < machine.cpu.cycles + budget ↔
      machine.spent n < budget.toNat := by
  rw [UInt64.lt_iff_toNat_lt, toNat_cycles_after_of_lt count, UInt64.toNat_add,
    Nat.mod_eq_of_lt target]
  omega

/-! ## The run -/

section Run

variable {target : UInt64}

lemma runToCycle_of_not_lt (h : ¬ machine.cpu.cycles < target) :
    machine.runToCycle target = some (.ok .continued, machine) := by
  rw [runToCycle, if_neg h]

lemma runToCycle_of_breaksOff (h : machine.cpu.cycles < target)
    (exceeds : machine.countedStep = none) : machine.runToCycle target = none := by
  rw [runToCycle, if_pos h, exceeds]

lemma runToCycle_of_continues (h : machine.cpu.cycles < target)
    (counted : machine.countedStep = some machine.step)
    (continues : machine.step.1 = .ok .continued) :
    machine.runToCycle target = machine.step.2.runToCycle target := by
  have stepped : machine.step = (.ok .continued, machine.step.2) := Prod.ext continues rfl
  rw [stepped] at counted
  rw [runToCycle, if_pos h, counted]

lemma runToCycle_of_ends (h : machine.cpu.cycles < target)
    (counted : machine.countedStep = some machine.step)
    (ends : machine.step.1 ≠ .ok .continued) : machine.runToCycle target = some machine.step := by
  rw [runToCycle, if_pos h, counted]
  split
  next after stepped => exact absurd (congrArg Prod.fst (Option.some.inj stepped)) ends
  next => rfl

end Run

/-- As long as the counting fits, the run follows the instructions that can be afforded. -/
lemma runToCycle_of_affords {budget : UInt64}
    (target : machine.cpu.cycles.toNat + budget.toNat < 2 ^ 64)
    (goesOn : ∀ k < n, machine.Affords budget.toNat k)
    (count : machine.cpu.cycles.toNat + machine.spent n < 2 ^ 64) :
    machine.runToCycle (machine.cpu.cycles + budget) =
      (machine.after n).runToCycle (machine.cpu.cycles + budget) := by
  induction n with
  | zero => rw [after_zero]
  | succ n ih =>
    obtain ⟨before, left, continues⟩ := Nat.forall_lt_succ_right.mp goesOn
    have earlier : machine.cpu.cycles.toNat + machine.spent n < 2 ^ 64 := by
      rw [spent_succ] at count
      omega
    have counted : (machine.after n).countedStep = some (machine.after n).step := by
      rw [countedStep_after earlier, if_pos count]
    rw [ih before earlier]
    exact runToCycle_of_continues ((lt_target_iff target earlier).mpr left) counted continues

/-- A count that does not fit breaks the run off, if it is the first. -/
lemma runToCycle_eq_none_of_lt {budget : UInt64}
    (target : machine.cpu.cycles.toNat + budget.toNat < 2 ^ 64)
    (goesOn : ∀ k < n, machine.Affords budget.toNat k) (left : machine.spent n < budget.toNat)
    (count : machine.cpu.cycles.toNat + machine.spent n < 2 ^ 64)
    (exceeds : 2 ^ 64 ≤ machine.cpu.cycles.toNat + machine.spent (n + 1)) :
    machine.runToCycle (machine.cpu.cycles + budget) = none := by
  rw [runToCycle_of_affords target goesOn count]
  apply runToCycle_of_breaksOff ((lt_target_iff target count).mpr left)
  rw [countedStep_after count, if_neg (Nat.not_lt_of_le exceeds)]

/-- Behind a count that does not fit there is no result: the first such count breaks the run off. -/
lemma runToCycle_eq_none {budget : UInt64}
    (target : machine.cpu.cycles.toNat + budget.toNat < 2 ^ 64)
    (goesOn : ∀ k < n, machine.Affords budget.toNat k) (left : machine.spent n < budget.toNat)
    (exceeds : 2 ^ 64 ≤ machine.cpu.cycles.toNat + machine.spent (n + 1)) :
    machine.runToCycle (machine.cpu.cycles + budget) = none := by
  induction n with
  | zero => exact runToCycle_eq_none_of_lt target goesOn left machine.cpu.cycles.toNat_lt exceeds
  | succ n ih =>
    obtain ⟨before, last⟩ := Nat.forall_lt_succ_right.mp goesOn
    by_cases count : machine.cpu.cycles.toNat + machine.spent (n + 1) < 2 ^ 64
    · exact runToCycle_eq_none_of_lt target goesOn left count exceeds
    · exact ih before last.1 (Nat.le_of_not_lt count)

/-- What the count shows was spent. -/
lemma toNat_used {final start : UInt64} {spent : ℕ} (h : final.toNat = start.toNat + spent) :
    (final - start).toNat = spent := by
  have bound := final.toNat_lt
  rw [UInt64.toNat_sub_of_le]
  · omega
  · rw [UInt64.le_iff_toNat_le]
    omega

lemma addCycles?_eq (count cycles : UInt64) : addCycles? count cycles =
    if count.toNat + cycles.toNat < 2 ^ 64 then some (count + cycles) else none :=
  rfl

/-- What is reported of an end that came after a count of cycles. -/
def reported (start : UInt64) (ended : Except ExecutionFault Outcome × Machine M) :
    Except ExecutionFault CycleRun × Machine M :=
  (ended.1.map fun outcome => ⟨ended.2.cpu.cycles - start, outcome⟩, ended.2)

lemma runForCycles_eq {budget : UInt64}
    (target : machine.cpu.cycles.toNat + budget.toNat < 2 ^ 64) :
    machine.runForCycles budget =
      (machine.runToCycle (machine.cpu.cycles + budget)).map (reported machine.cpu.cycles) := by
  rw [runForCycles, addCycles?_eq, if_pos target]
  cases run : machine.runToCycle (machine.cpu.cycles + budget) with
  | none => simp [run]
  | some ended =>
    obtain ⟨result, final⟩ := ended
    cases result <;> simp [run, reported, Except.map]

lemma BreaksOff.runForCycles_eq_none {budget : UInt64} (h : machine.BreaksOff budget.toNat) :
    machine.runForCycles budget = none := by
  by_cases target : machine.cpu.cycles.toNat + budget.toNat < 2 ^ 64
  · cases h with
    | target exceeds => exact absurd target (Nat.not_lt_of_le exceeds)
    | count few goesOn left exceeds =>
      rw [runForCycles_eq target, runToCycle_eq_none target goesOn left exceeds, Option.map_none]
  · rw [runForCycles, addCycles?_eq, if_neg target]
    rfl

/-- The run stops at an instruction that it comes to with cycles left. -/
lemma spends_of_ends (few : n + 1 ≤ budget / 2 + 1) (goesOn : ∀ k < n, machine.Affords budget k)
    (left : machine.spent n < budget) (ends : (machine.after n).step.1 ≠ .ok .continued)
    (count : machine.cpu.cycles.toNat + machine.spent (n + 1) < 2 ^ 64) :
    machine.Spends budget (reported machine.cpu.cycles (machine.after n).step) := by
  rw [reported, ← after_succ]
  cases result : (machine.after n).step.1 with
  | error fault => exact .failed few goesOn left result
  | ok outcome =>
    cases outcome with
    | continued => exact absurd result ends
    | finished kind =>
      exact .finished few goesOn left result (toNat_used (toNat_cycles_after_of_lt count)) rfl

/-- A run that does not break off comes to what its budget allows. -/
lemma exists_spends {budget : UInt64} (holds : ¬ machine.BreaksOff budget.toNat) :
    ∃ result, machine.runForCycles budget = some result ∧
      machine.Spends budget.toNat result := by
  have target : machine.cpu.cycles.toNat + budget.toNat < 2 ^ 64 :=
    Nat.lt_of_not_le fun exceeds => holds (.target exceeds)
  obtain ⟨n, few, goesOn, stop⟩ := machine.exists_stop budget.toNat
  have count := count_lt holds goesOn
  rw [runForCycles_eq target, runToCycle_of_affords target goesOn count]
  rcases stop with enough | ⟨another, left, ends⟩
  · have reached : ¬ (machine.after n).cpu.cycles < machine.cpu.cycles + budget :=
      mt (lt_target_iff target count).mp (Nat.not_lt_of_le enough)
    rw [runToCycle_of_not_lt reached]
    exact ⟨_, rfl, .spent few goesOn enough (spent_le goesOn)
      (toNat_used (toNat_cycles_after_of_lt count)) rfl⟩
  · have next : machine.cpu.cycles.toNat + machine.spent (n + 1) < 2 ^ 64 :=
      Nat.lt_of_not_le fun exceeds => holds (.count another goesOn left exceeds)
    have counted : (machine.after n).countedStep = some (machine.after n).step := by
      rw [countedStep_after count, if_pos next]
    rw [runToCycle_of_ends ((lt_target_iff target count).mpr left) counted ends]
    exact ⟨_, rfl, spends_of_ends another goesOn left ends next⟩

/-! ## What ends a run -/

/-- There is but one first instruction that cannot be afforded. -/
lemma eq_of_first {m : ℕ} (hn : ∀ k < n, machine.Affords budget k)
    (stops : ¬ machine.Affords budget n) (hm : ∀ k < m, machine.Affords budget k)
    (stops' : ¬ machine.Affords budget m) : n = m := by
  rcases Nat.lt_trichotomy n m with before | same | behind
  · exact absurd (hm n before) stops
  · exact same
  · exact absurd (hn m behind) stops'

lemma not_affords_of_le (h : budget ≤ machine.spent n) : ¬ machine.Affords budget n :=
  fun affords => Nat.not_lt_of_le h affords.1

lemma not_affords_of_ne (h : (machine.after n).step.1 ≠ .ok .continued) :
    ¬ machine.Affords budget n :=
  fun affords => h affords.2

/-- It fails exactly with an instruction that fails while there are cycles left. -/
lemma Spends.fails_iff {result : Except ExecutionFault CycleRun × Machine M}
    (h : machine.Spends budget result) (fault : ExecutionFault) :
    result.1 = .error fault ↔ ∃ n, (∀ k < n, machine.Affords budget k) ∧
      machine.spent n < budget ∧ (machine.after n).step.1 = .error fault := by
  constructor
  · intro failed
    cases h with
    | spent => cases failed
    | finished => cases failed
    | failed few goesOn left fails =>
      cases failed
      exact ⟨_, goesOn, left, fails⟩
  · rintro ⟨m, before, left, fails⟩
    have stops : ¬ machine.Affords budget m := not_affords_of_ne (by simp [fails])
    cases h with
    | spent few goesOn enough =>
      cases eq_of_first goesOn (not_affords_of_le enough) before stops
      exact absurd left (Nat.not_lt_of_le enough)
    | finished few goesOn _ finishes =>
      cases eq_of_first goesOn (not_affords_of_ne (by simp [finishes])) before stops
      rw [finishes] at fails
      cases fails
    | failed few goesOn _ fails' =>
      cases eq_of_first goesOn (not_affords_of_ne (by simp [fails'])) before stops
      rw [fails'] at fails
      cases fails
      rfl

/-- Where there is room for the largest excess, nothing breaks off. -/
lemma not_breaksOff_of_lt (h : machine.cpu.cycles.toNat + budget + 6 < 2 ^ 64) :
    ¬ machine.BreaksOff budget := by
  intro breaksOff
  cases breaksOff with
  | target exceeds => omega
  | @count n _ _ left exceeds =>
    have cost := (machine.after n).stepCycles_le
    rw [spent_succ] at exceeds
    omega

/-- **A run spends its budget**, on every bus and from every state, unless its counting exceeds 64
bits: exactly then it breaks off.  Otherwise its instructions go through until the budget is spent,
a return ends the run or one of them fails, whichever comes first, and it ends after at most half as
many as the budget has cycles, and one more.  The counting fits whenever the budget and six cycles
more do. -/
theorem runForCycles_spends (machine : Machine M) (budget : UInt64) :
    (machine.runForCycles budget = none ↔ machine.BreaksOff budget.toNat) ∧
      (∀ result, machine.runForCycles budget = some result →
        machine.Spends budget.toNat result ∧
          ∀ fault, result.1 = .error fault ↔
            ∃ n, (∀ k < n, machine.Affords budget.toNat k) ∧ machine.spent n < budget.toNat ∧
              (machine.after n).step.1 = .error fault) ∧
      (machine.cpu.cycles.toNat + budget.toNat + 6 < 2 ^ 64 →
        ¬ machine.BreaksOff budget.toNat) := by
  refine ⟨⟨fun missing => ?_, BreaksOff.runForCycles_eq_none⟩, fun result run => ?_,
    not_breaksOff_of_lt⟩
  · by_contra holds
    obtain ⟨result, run, -⟩ := exists_spends holds
    rw [missing] at run
    cases run
  · have holds : ¬ machine.BreaksOff budget.toNat := by
      intro breaksOff
      rw [breaksOff.runForCycles_eq_none] at run
      cases run
    obtain ⟨result', run', spends⟩ := exists_spends holds
    rw [run] at run'
    cases run'
    exact ⟨spends, spends.fails_iff⟩

/-! ### Behind one instruction -/

/-- `NOP` and `RTS` before the processor, and the two cycles of another `NOP` on its count. -/
def ticked : Machine Ram :=
  let start : Machine Ram :=
    { cpu := { (Processor.powerOn 0).reset 0x1000 0 0 0 0 with exitPolicy := .whenStackEmpty 8 }
      bus := Ram.empty.load 0x1000 [0xEA, 0xEA, 0x60] }
  start.step.2

namespace ticked

lemma cycles_eq : ticked.cpu.cycles = 2 := by
  decide +kernel

/-- The theorem there, for three cycles: the return takes five more than are left. -/
theorem returns_in_debt : ticked.cpu.cycles.toNat + (3 : UInt64).toNat + 6 < 2 ^ 64 ∧
    ∃ final, ticked.runForCycles 3 = some (.ok ⟨8, .finished .fromSubroutine⟩, final) ∧
      ticked.Spends 3 (.ok ⟨8, .finished .fromSubroutine⟩, final) := by
  have room : ticked.cpu.cycles.toNat + (3 : UInt64).toNat + 6 < 2 ^ 64 := by
    rw [cycles_eq]
    decide
  obtain ⟨-, spends, -⟩ := runForCycles_spends ticked 3
  have result : (ticked.runForCycles 3).map Prod.fst =
      some (.ok ⟨8, .finished .fromSubroutine⟩) := by
    decide +kernel
  obtain ⟨⟨_, final⟩, run, rfl⟩ := Option.map_eq_some_iff.mp result
  exact ⟨room, final, run, (spends _ run).1⟩

end ticked

/-- **A large budget can buy nothing.**  With two cycles on the count and the largest budget, the
run breaks off before its first instruction. -/
theorem budget_law_fails : ¬ ∀ (machine : Machine Ram) (budget : UInt64),
    ∃ result, machine.runForCycles budget = some result ∧
      machine.Spends budget.toNat result := by
  intro law
  have exceeds : 2 ^ 64 ≤ ticked.cpu.cycles.toNat + (0xFFFFFFFFFFFFFFFF : UInt64).toNat := by
    rw [ticked.cycles_eq]
    decide
  obtain ⟨result, run, -⟩ := law ticked 0xFFFFFFFFFFFFFFFF
  rw [(BreaksOff.target exceeds).runForCycles_eq_none] at run
  cases run

end Machine

end SidScore
