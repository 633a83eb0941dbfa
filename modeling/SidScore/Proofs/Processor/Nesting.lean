import SidScore.Proofs.Processor.Stack

/-!
# Nested use of the stack

A program that pulls what it pushed, the latest first, finds everything as it left it, however
deeply calls, interrupts and saved registers are nested and wherever in page one the stack begins.
`Nesting` is the shape of such a program's run, `Machine.CarriesOut` says that a run has the shape,
and `Machine.Restores` what every pull in it gives back.

The proof goes along the shape.  While the instructions inside a pair are carried out, the bytes
that the pair has pushed are part of what is stacked, so the induction is over all lists of stacked
bytes for which the 256 cells are enough.
-/

namespace SidScore

/-- A sequence of instructions in which every pull has its push. -/
inductive Nesting where
  /-- No instruction is left. -/
  | done
  /-- An instruction that leaves the stack alone, and what follows. -/
  | other (rest : Nesting)
  /-- A push, what is carried out before its pull, the pull, and what follows. -/
  | pair (use : StackUse) (inner rest : Nesting)
  deriving Repr, DecidableEq

namespace Nesting

/-- The number of instructions. -/
def length : Nesting → ℕ
  | done => 0
  | other rest => rest.length + 1
  | pair _ inner rest => inner.length + rest.length + 2

/-- The most bytes that are stacked at once. -/
def depth : Nesting → ℕ
  | done => 0
  | other rest => rest.depth
  | pair use inner rest => max (use.size + inner.depth) rest.depth

end Nesting

namespace Machine

variable {M : Type} [Bus M]

/-- The next instruction writes neither to page one nor to the stack pointer. -/
@[mk_iff]
structure SparesStack (machine : Machine M) : Prop where
  writes : ∀ address ∈ machine.cpu.step.writes machine.bus, address < 0x0100 ∨ 0x0200 ≤ address
  sp : machine.step.2.cpu.sp = machine.cpu.sp

instance (machine : Machine M) : Decidable machine.SparesStack :=
  -- The addresses written are few; all addresses would be too many to go through.
  have writes := List.decidableBAll (fun address : UInt16 => address < 0x0100 ∨ 0x0200 ≤ address)
    (machine.cpu.step.writes machine.bus)
  @decidable_of_iff' _ _ machine.sparesStack_iff (@instDecidableAnd _ _ writes inferInstance)

/-- The next instructions are those of a nesting. -/
def CarriesOut : Machine M → Nesting → Prop
  | _, .done => True
  | machine, .other rest => machine.SparesStack ∧ machine.step.2.CarriesOut rest
  | machine, .pair use inner rest =>
    machine.next = use.push ∧ machine.step.2.CarriesOut inner ∧
      (machine.step.2.after inner.length).next = use.pull ∧
      (machine.step.2.after inner.length).step.2.CarriesOut rest

instance decidableCarriesOut : (machine : Machine M) → (nesting : Nesting) →
    Decidable (machine.CarriesOut nesting)
  | _, .done => isTrue trivial
  | machine, .other rest =>
    have := decidableCarriesOut machine.step.2 rest
    inferInstanceAs (Decidable (_ ∧ _))
  | machine, .pair _ inner rest =>
    have := decidableCarriesOut machine.step.2 inner
    have := decidableCarriesOut (machine.step.2.after inner.length).step.2 rest
    inferInstanceAs (Decidable (_ ∧ _ ∧ _ ∧ _))

/-- Every pull of a nesting goes through and gives back what its push has saved. -/
def Restores : Machine M → Nesting → Prop
  | _, .done => True
  | machine, .other rest => machine.step.2.Restores rest
  | machine, .pair use inner rest =>
    let pulling := machine.step.2.after inner.length
    machine.step.2.Restores inner ∧ pulling.step.1 = .ok .continued ∧
      use.Restored machine.cpu pulling.step.2.cpu ∧ pulling.step.2.Restores rest

/-! ## Along a run -/

variable {machine : Machine M}

lemma after_step (n : ℕ) : machine.step.2.after n = machine.after (n + 1) := by
  rw [Nat.add_comm, after_add]
  rfl

/-- A run through a pair: the push, what is inside, the pull and what follows. -/
lemma after_pair (inner rest : ℕ) : machine.after (inner + rest + 2) =
    (machine.step.2.after inner).step.2.after rest := by
  rw [after_step, after_step, ← after_add]
  exact congrArg machine.after (by omega)

lemma exitPolicy_step : machine.step.2.cpu.exitPolicy = machine.cpu.exitPolicy :=
  machine.cpu.step_exitPolicy.run machine.bus

lemma exitPolicy_after (n : ℕ) : (machine.after n).cpu.exitPolicy = machine.cpu.exitPolicy := by
  induction n with
  | zero => rfl
  | succ n ih => rw [after_succ, exitPolicy_step, ih]

lemma SparesStack.stacked (plain : Bus.PlainStack M) (h : machine.SparesStack)
    {bytes : List UInt8} (stacked : Bus.Stacked machine.bus machine.cpu.sp bytes) :
    Bus.Stacked machine.step.2.bus machine.step.2.cpu.sp bytes := by
  rw [h.sp]
  refine stacked.congr fun k _ => machine.cpu.step.stackByte_run plain fun written => ?_
  have elsewhere := h.writes _ written
  have bound := (machine.cpu.sp + 1 + UInt8.ofNat k).toNat_lt
  rw [UInt16.lt_iff_toNat_lt, UInt16.le_iff_toNat_le, toNat_stackCell] at elsewhere
  simp only [UInt16.reduceToNat] at elsewhere
  omega

/-- What a nesting leaves: its pulls have restored everything, and the stack is as it was. -/
structure LeavesStack (machine : Machine M) (nesting : Nesting) (bytes : List UInt8) : Prop where
  restores : machine.Restores nesting
  sp : (machine.after nesting.length).cpu.sp = machine.cpu.sp
  stacked : Bus.Stacked (machine.after nesting.length).bus
    (machine.after nesting.length).cpu.sp bytes

lemma leavesStack (plain : Bus.PlainStack M) {nesting : Nesting} {bytes : List UInt8}
    (unguarded : machine.cpu.exitPolicy.enabled = false) (h : machine.CarriesOut nesting)
    (stacked : Bus.Stacked machine.bus machine.cpu.sp bytes)
    (room : nesting.depth + bytes.length ≤ 256) : machine.LeavesStack nesting bytes := by
  induction nesting generalizing machine bytes with
  | done => exact ⟨trivial, rfl, stacked⟩
  | other rest ih =>
    obtain ⟨spares, later⟩ := h
    obtain ⟨restores, sp, left⟩ :=
      ih (by rw [exitPolicy_step]; exact unguarded) later (spares.stacked plain stacked) room
    rw [after_step] at sp left
    exact ⟨restores, sp.trans spares.sp, left⟩
  | pair use inner rest innerIh restIh =>
    obtain ⟨pushes, inside, pulls, later⟩ := h
    have enough : use.size + inner.depth + bytes.length ≤ 256 ∧
        rest.depth + bytes.length ≤ 256 := by
      rw [Nesting.depth] at room
      omega
    obtain ⟨held, size⟩ := push_stacked plain pushes stacked (by omega)
    have inner_leaves := innerIh (by rw [exitPolicy_step]; exact unguarded) inside held
      (by rw [List.length_append, StackUse.length_bytes]; omega)
    obtain ⟨passes, restored, sp, left⟩ := pull_restores plain pulls
      (by rw [exitPolicy_after, exitPolicy_step]; exact unguarded) inner_leaves.stacked
    have rest_leaves := restIh
      (by rw [exitPolicy_step, exitPolicy_after, exitPolicy_step]; exact unguarded) later left
      enough.2
    refine ⟨⟨inner_leaves.restores, passes, restored, rest_leaves.restores⟩, ?_, ?_⟩
    · rw [Nesting.length, after_pair, rest_leaves.sp, sp, inner_leaves.sp, size]
    · rw [Nesting.length, after_pair]
      exact rest_leaves.stacked

/-! ## The stack as a whole -/

/-- Whatever is nested within 256 bytes, from any stack pointer: its pulls restore what was pushed,
and the pointer ends where it was. -/
def LastInFirstOut (M : Type) [Bus M] : Prop :=
  ∀ (machine : Machine M) (nesting : Nesting), machine.cpu.exitPolicy.enabled = false →
    machine.CarriesOut nesting → nesting.depth ≤ 256 →
    machine.Restores nesting ∧ (machine.after nesting.length).cpu.sp = machine.cpu.sp

lemma lastInFirstOut (plain : Bus.PlainStack M) : LastInFirstOut M := by
  intro machine nesting unguarded carried room
  have empty : Bus.Stacked machine.bus machine.cpu.sp [] := trivial
  have leaves := leavesStack plain unguarded carried empty room
  exact ⟨leaves.restores, leaves.sp⟩

/-- **The stack gives back the latest byte first**, around the whole of page one, on plain and on
banked memory. -/
theorem stack_lastInFirstOut : LastInFirstOut Ram ∧ LastInFirstOut BankedMemory :=
  ⟨lastInFirstOut Ram.plainStack, lastInFirstOut BankedMemory.plainStack⟩

/-- `PHA`, a call of `PHP; LDA #0; PLP; RTS` at `$0210`, and `PLA`, with the accumulator `$2A`, the
carry set and two free cells below the end of page one. -/
def nestedCall : Machine Ram where
  cpu :=
    { Processor.powerOn 0x0200 with
      a := 0x2A, sp := 0x01, flags := { Flags.powerOn with carry := true } }
  bus := (Ram.empty.load 0x0200 [0x48, 0x20, 0x10, 0x02, 0x68]).load 0x0210
    [0x08, 0xA9, 0x00, 0x28, 0x60]

namespace nestedCall

/-- The shape of its seven instructions. -/
def shape : Nesting :=
  .pair .accumulator (.pair .subroutine (.pair .status (.other .done) .done) .done) .done

/-- The stack wraps between the two bytes of the return address, and all is restored. -/
theorem restored : nestedCall.CarriesOut shape ∧ (nestedCall.after 2).cpu.sp = 0xFE ∧
    (nestedCall.after 7).cpu.a = 0x2A ∧ (nestedCall.after 6).cpu.pc = 0x0204 ∧
      (nestedCall.after 7).cpu.sp = 0x01 := by
  have carried : nestedCall.CarriesOut shape := by decide +kernel
  obtain ⟨restores, sp⟩ := stack_lastInFirstOut.1 nestedCall shape rfl carried (by decide)
  obtain ⟨⟨-, -, returned, -⟩, -, pulled, -⟩ := restores
  have five :
      (Nesting.pair .subroutine (.pair .status (.other .done) .done) .done).length = 5 := rfl
  have seven : shape.length = 7 := rfl
  have three : (Nesting.pair .status (.other .done) .done).length = 3 := rfl
  have called : nestedCall.step.2.cpu.pc + 3 = 0x0204 := by decide +kernel
  rw [StackUse.Restored, five, after_step, ← after_succ] at pulled
  rw [StackUse.Restored, three, after_step, after_step, ← after_succ, called] at returned
  rw [seven] at sp
  simp only [Nat.reduceAdd] at pulled returned
  exact ⟨carried, by decide +kernel, pulled, returned, sp⟩

end nestedCall

end Machine

end SidScore
