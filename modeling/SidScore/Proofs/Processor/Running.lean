import Mathlib.Order.Bounds.Basic
import Mathlib.Tactic.Common
import SidScore.Player.Routine

/-!
# A routine under a limit

Whether an instruction ends a routine does not depend on the limit.  So there is one run without any
limit, `Machine.after`, and a run under a limit follows it until an instruction ends the routine,
an instruction fails or the limit is reached, whichever comes first.  `Machine.Ran` tells these
three apart, and `Machine.runRoutine_eq` says what becomes of a run that came to its end under one
limit when the limit is another.
-/

namespace SidScore

/-- Below a limit a property holds throughout, or there is a first number where it does not. -/
lemma forall_lt_or_first (P : ℕ → Prop) (limit : ℕ) :
    (∀ k < limit, P k) ∨ ∃ n < limit, (∀ k < n, P k) ∧ ¬ P n := by
  induction limit with
  | zero => exact .inl fun k hk => absurd hk k.not_lt_zero
  | succ limit ih =>
    rcases ih with all | ⟨n, hn, first⟩
    · by_cases last : P limit
      · refine .inl fun k hk => ?_
        rcases Nat.lt_succ_iff_lt_or_eq.mp hk with earlier | rfl
        · exact all k earlier
        · exact last
      · exact .inr ⟨limit, Nat.lt_succ_self limit, all, last⟩
    · exact .inr ⟨n, Nat.lt_succ_of_lt hn, first⟩

/-- A routine stops with an instruction that went through at `before` and left the program counter
at `after`: the instruction was a return from the empty stack, or the program counter is at
`$EA31` to `$EA81`, or the routine is init and the program counter is where it was. -/
def Routine.Stops (routine : Routine) (before after : UInt16) (outcome : Outcome) : Prop :=
  (∃ kind, outcome = .finished kind) ∨
    (0xEA31 ≤ after.toNat ∧ after.toNat ≤ 0xEA81) ∨
    routine = .init ∧ after = before

lemma inSystemExit_iff (address : UInt16) :
    inSystemExit address = true ↔ 0xEA31 ≤ address.toNat ∧ address.toNat ≤ 0xEA81 := by
  simp only [inSystemExit, Bool.and_eq_true, decide_eq_true_eq, UInt16.le_iff_toNat_le]
  rfl

lemma Routine.stops_iff (routine : Routine) (before after : UInt16) (outcome : Outcome) :
    routine.Stops before after outcome ↔ routine.ending? before after outcome ≠ none := by
  unfold Stops ending?
  rw [← inSystemExit_iff]
  cases outcome with
  | finished kind => simp
  | continued =>
    dsimp only
    by_cases exits : inSystemExit after = true
    · simp [exits]
    · by_cases idles : routine = .init ∧ after = before
      · rw [if_neg exits, if_pos idles]
        simp [idles]
      · rw [if_neg exits, if_neg idles]
        simp [exits, idles]

/-- A routine is taken to idle if it goes on in init, in place and outside the system's exit. -/
lemma Routine.ending?_eq_idle_iff {routine : Routine} {before after : UInt16} {outcome : Outcome} :
    routine.ending? before after outcome = some .idle ↔
      outcome = .continued ∧ inSystemExit after = false ∧ routine = .init ∧ after = before := by
  cases outcome with
  | finished kind => simp [ending?]
  | continued =>
    rw [ending?]
    split
    next exits => simp [exits]
    next inside =>
      split
      next idles => simp [idles, Bool.eq_false_iff.mpr (idles.2 ▸ inside)]
      next moves => simpa using fun _ => moves

namespace Machine

variable {M : Type} [Bus M] (machine : Machine M)

/-- The machine after a number of instructions, whatever became of them. -/
def after : ℕ → Machine M
  | 0 => machine
  | n + 1 => (after n).step.2

@[simp] lemma after_zero : machine.after 0 = machine :=
  rfl

lemma after_succ (n : ℕ) : machine.after (n + 1) = (machine.after n).step.2 :=
  rfl

lemma after_add (m n : ℕ) : machine.after (m + n) = (machine.after m).after n := by
  induction n with
  | zero => rfl
  | succ n ih => rw [← Nat.add_assoc, after_succ, after_succ, ih]

/-- A routine stops after the first `n` instructions, because of the last of them. -/
def StopsAfter (routine : Routine) : ℕ → Prop
  | 0 => False
  | n + 1 => ∃ outcome, (machine.after n).step.1 = .ok outcome ∧
      routine.Stops (machine.after n).cpu.pc (machine.after (n + 1)).cpu.pc outcome

/-- The instruction after the first `n` fails. -/
def FailsAt (n : ℕ) : Prop :=
  ∃ fault, (machine.after n).step.1 = .error fault

/-- What a routine comes to under a limit: its result and the machine afterwards. -/
inductive Ran (routine : Routine) (limit : ℕ) : Except TuneFault RoutineRun × Machine M → Prop where
  /-- It stops as soon as it can, within the limit, and nothing failed before. -/
  | ended {run : RoutineRun} (within : run.instructions ≤ limit)
    (least : IsLeast {n | machine.StopsAfter routine n} run.instructions)
    (sound : ∀ k < run.instructions, ¬ machine.FailsAt k) :
    Ran routine limit (.ok run, machine.after run.instructions)
  /-- An instruction within the limit fails, the first to do so, before the routine stops. -/
  | failed {n : ℕ} {fault : ExecutionFault} (within : n < limit)
    (fails : (machine.after n).step.1 = .error fault) (sound : ∀ k < n, ¬ machine.FailsAt k)
    (goesOn : ∀ k ≤ n, ¬ machine.StopsAfter routine k) :
    Ran routine limit (.error (.execution fault), machine.after (n + 1))
  /-- Within the limit the routine does not stop, and nothing fails. -/
  | cut (sound : ∀ k < limit, ¬ machine.FailsAt k)
    (goesOn : ∀ k ≤ limit, ¬ machine.StopsAfter routine k) :
    Ran routine limit (.error (.runaway routine (machine.after limit).cpu.pc limit),
      machine.after limit)

/-! ## Instruction by instruction -/

/-- The instruction after the first `n` goes through, and the routine does not stop with it. -/
def Passes (routine : Routine) (n : ℕ) : Prop :=
  ∃ outcome, (machine.after n).step.1 = .ok outcome ∧
    routine.ending? (machine.after n).cpu.pc (machine.after (n + 1)).cpu.pc outcome = none

/-- The routine ends with the instruction after the first `n`, in the way named. -/
def EndsAt (routine : Routine) (n : ℕ) (ending : Ending) : Prop :=
  ∃ outcome, (machine.after n).step.1 = .ok outcome ∧
    routine.ending? (machine.after n).cpu.pc (machine.after (n + 1)).cpu.pc outcome = some ending

variable {machine} {routine : Routine} {n limit : ℕ} {ending : Ending}

lemma Passes.not_failsAt (h : machine.Passes routine n) : ¬ machine.FailsAt n := by
  obtain ⟨outcome, goes, -⟩ := h
  rintro ⟨fault, fails⟩
  rw [goes] at fails
  cases fails

lemma Passes.not_stopsAfter (h : machine.Passes routine n) :
    ¬ machine.StopsAfter routine (n + 1) := by
  obtain ⟨outcome, goes, on⟩ := h
  rintro ⟨outcome', goes', stops⟩
  rw [goes] at goes'
  cases goes'
  exact (routine.stops_iff _ _ _).mp stops on

/-- A routine whose first instructions pass has not stopped with any of them. -/
lemma not_stopsAfter_of_passes (h : ∀ k < n, machine.Passes routine k) {k : ℕ} (hk : k ≤ n) :
    ¬ machine.StopsAfter routine k := by
  cases k with
  | zero => exact id
  | succ k => exact (h k hk).not_stopsAfter

lemma EndsAt.stopsAfter (h : machine.EndsAt routine n ending) :
    machine.StopsAfter routine (n + 1) := by
  obtain ⟨outcome, goes, ends⟩ := h
  refine ⟨outcome, goes, (routine.stops_iff _ _ _).mpr ?_⟩
  rw [ends]
  exact Option.some_ne_none ending

lemma EndsAt.not_failsAt (h : machine.EndsAt routine n ending) : ¬ machine.FailsAt n := by
  obtain ⟨outcome, goes, -⟩ := h
  rintro ⟨fault, fails⟩
  rw [goes] at fails
  cases fails

lemma passes_or (machine : Machine M) (routine : Routine) (n : ℕ) :
    machine.Passes routine n ∨ machine.FailsAt n ∨ ∃ ending, machine.EndsAt routine n ending := by
  cases result : (machine.after n).step.1 with
  | error fault => exact .inr (.inl ⟨fault, result⟩)
  | ok outcome =>
    cases ends : routine.ending? (machine.after n).cpu.pc (machine.after (n + 1)).cpu.pc
        outcome with
    | none => exact .inl ⟨outcome, result, ends⟩
    | some ending => exact .inr (.inr ⟨ending, outcome, result, ends⟩)

/-- Under a limit all instructions pass, or there is a first one that does not. -/
lemma passes_or_first (machine : Machine M) (routine : Routine) (limit : ℕ) :
    (∀ k < limit, machine.Passes routine k) ∨
      ∃ n < limit, (∀ k < n, machine.Passes routine k) ∧
        (machine.FailsAt n ∨ ∃ ending, machine.EndsAt routine n ending) := by
  refine (forall_lt_or_first (machine.Passes routine) limit).imp_right ?_
  rintro ⟨n, hn, before, stops⟩
  exact ⟨n, hn, before, (machine.passes_or routine n).resolve_left stops⟩

/-! ## The run of a routine -/

/-- After instructions that pass, the run stands where the run without a limit does. -/
lemma runRoutine_of_passes (h : ∀ k < n, machine.Passes routine k) (fuel : ℕ) :
    machine.runRoutine routine (n + fuel) =
      (machine.after n).runRoutineFrom routine n fuel := by
  induction n generalizing fuel with
  | zero => rw [Nat.zero_add, runRoutine, after_zero]
  | succ n ih =>
    obtain ⟨outcome, goes, on⟩ := h n (Nat.lt_succ_self n)
    rw [Nat.succ_add_eq_add_succ, ih fun k hk => h k (Nat.lt_succ_of_lt hk)]
    have stepped : (machine.after n).step = (.ok outcome, machine.after (n + 1)) :=
      Prod.ext goes rfl
    rw [runRoutineFrom, stepped]
    simp only [on]

lemma runRoutine_of_endsAt (h : ∀ k < n, machine.Passes routine k)
    (ends : machine.EndsAt routine n ending) (hn : n < limit) :
    machine.runRoutine routine limit = (.ok ⟨n + 1, ending⟩, machine.after (n + 1)) := by
  obtain ⟨fuel, rfl⟩ := Nat.exists_eq_add_of_lt hn
  obtain ⟨outcome, goes, ending_eq⟩ := ends
  have stepped : (machine.after n).step = (.ok outcome, machine.after (n + 1)) := Prod.ext goes rfl
  rw [Nat.add_assoc, runRoutine_of_passes h, runRoutineFrom, stepped]
  simp only [ending_eq]

lemma runRoutine_of_fails {fault : ExecutionFault} (h : ∀ k < n, machine.Passes routine k)
    (fails : (machine.after n).step.1 = .error fault) (hn : n < limit) :
    machine.runRoutine routine limit = (.error (.execution fault), machine.after (n + 1)) := by
  obtain ⟨fuel, rfl⟩ := Nat.exists_eq_add_of_lt hn
  have stepped : (machine.after n).step = (.error fault, machine.after (n + 1)) :=
    Prod.ext fails rfl
  rw [Nat.add_assoc, runRoutine_of_passes h, runRoutineFrom, stepped]

lemma runRoutine_cut (h : ∀ k < limit, machine.Passes routine k) :
    machine.runRoutine routine limit =
      (.error (.runaway routine (machine.after limit).cpu.pc limit), machine.after limit) := by
  have all := runRoutine_of_passes h 0
  rwa [Nat.add_zero, runRoutineFrom] at all

/-- Every run under a limit is one of the three. -/
lemma runRoutine_ran (machine : Machine M) (routine : Routine) (limit : ℕ) :
    machine.Ran routine limit (machine.runRoutine routine limit) := by
  rcases machine.passes_or_first routine limit with
    all | ⟨n, hn, before, ⟨fault, fails⟩ | ⟨ending, ends⟩⟩
  · rw [runRoutine_cut all]
    exact .cut (fun k hk => (all k hk).not_failsAt) fun k hk => not_stopsAfter_of_passes all hk
  · rw [runRoutine_of_fails before fails hn]
    exact .failed hn fails (fun k hk => (before k hk).not_failsAt)
      fun k hk => not_stopsAfter_of_passes before hk
  · rw [runRoutine_of_endsAt before ends hn]
    refine .ended hn ⟨ends.stopsAfter, fun k stops => ?_⟩ fun k hk => ?_
    · by_contra earlier
      exact not_stopsAfter_of_passes before (Nat.lt_succ_iff.mp (Nat.lt_of_not_le earlier)) stops
    · rcases Nat.lt_succ_iff_lt_or_eq.mp hk with earlier | rfl
      · exact (before k earlier).not_failsAt
      · exact ends.not_failsAt

/-- A routine that ended did so with the last instruction that was carried out. -/
lemma endsAt_of_runRoutine {run : RoutineRun} {stopped : Machine M}
    (h : machine.runRoutine routine limit = (.ok run, stopped)) :
    ∃ n, run.instructions = n + 1 ∧ machine.EndsAt routine n run.ending ∧
      stopped = machine.after (n + 1) := by
  rcases machine.passes_or_first routine limit with
    all | ⟨n, hn, before, ⟨fault, fails⟩ | ⟨ending, ends⟩⟩
  · rw [runRoutine_cut all] at h
    cases h
  · rw [runRoutine_of_fails before fails hn] at h
    cases h
  · rw [runRoutine_of_endsAt before ends hn] at h
    cases h
    exact ⟨n, rfl, ends, rfl⟩

/-- A run that came to its end does so under every limit that it fits, and is cut off under every
other. -/
lemma runRoutine_eq {run : RoutineRun} (h : (machine.runRoutine routine limit).1 = .ok run)
    (other : ℕ) :
    machine.runRoutine routine other =
      if run.instructions ≤ other then machine.runRoutine routine limit
      else (.error (.runaway routine (machine.after other).cpu.pc other), machine.after other) := by
  rcases machine.passes_or_first routine limit with
    all | ⟨n, hn, before, ⟨fault, fails⟩ | ⟨ending, ends⟩⟩
  · rw [runRoutine_cut all] at h
    cases h
  · rw [runRoutine_of_fails before fails hn] at h
    cases h
  · rw [runRoutine_of_endsAt before ends hn] at h ⊢
    cases h
    split
    next fits => exact runRoutine_of_endsAt before ends fits
    next short =>
      refine runRoutine_cut fun k hk => before k ?_
      exact Nat.lt_of_lt_of_le hk (Nat.lt_succ_iff.mp (Nat.lt_of_not_le short))

lemma runRoutine_of_le {run : RoutineRun} (h : (machine.runRoutine routine limit).1 = .ok run)
    {larger : ℕ} (hlimit : limit ≤ larger) :
    machine.runRoutine routine larger = machine.runRoutine routine limit := by
  have within : run.instructions ≤ limit := by
    by_contra short
    have cut := runRoutine_eq h limit
    rw [if_neg short] at cut
    rw [cut] at h
    cases h
  rw [runRoutine_eq h larger, if_pos (within.trans hlimit)]

end Machine

end SidScore
