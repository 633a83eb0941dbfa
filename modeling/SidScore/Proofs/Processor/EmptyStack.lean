import SidScore.Proofs.Processor.Effects
import SidScore.Proofs.Processor.Nesting

/-!
# Which return ends a run

The exit policy sees the stack pointer and nothing else: a return ends the run when its pulls would
carry the pointer past `$FF` and into the zone.  Whether that return was the routine's own is a
matter of how many bytes are stacked, and the policy has no count of them.

The count is kept here beside the run (`Machine.stackedBytes`), from the entry of the routine on.
As long as nothing is pulled that was not pushed, and the stack leaves the zone free, the pointer
is `$FF` less the count.  So with a zone of at least three positions the policy fires for `RTS`
exactly when fewer than two bytes are stacked, and for `RTI` exactly when fewer than three are
(`Machine.ReturnsTell`).  A subroutine in between has its two bytes on the stack and returns to its
caller.
-/

namespace SidScore

open Processor (stackCell)

/-- The stack pointer is the destination of `TXS` alone. -/
lemma Mnemonic.destination?_ne_stackPointer {mnemonic : Mnemonic} (h : mnemonic ≠ .txs)
    (mode : Mode) : mnemonic.destination? mode ≠ some .stackPointer := by
  cases mnemonic with
  | txs => exact absurd rfl h
  | _ => cases mode <;> simp [destination?]

/-- No instruction pushes or pulls more than three bytes. -/
lemma Mnemonic.stack_bounds (mnemonic : Mnemonic) : mnemonic.pushes ≤ 3 ∧ mnemonic.pulls ≤ 3 := by
  cases mnemonic <;> decide

namespace Machine

/-! ## A routine that has been called -/

section Entry

variable {M : Type} {machine : Machine M} {zone : UInt8}

/-- The processor stands at the entry of a routine, and a return from an empty stack will end the
run. -/
inductive Called (zone : UInt8) : Machine M → Prop
  | reset (cpu : Processor) (bus : M) (entry : UInt16) (a x y status : UInt8)
    (policy : cpu.exitPolicy = .whenStackEmpty zone) :
    Called zone ⟨cpu.reset entry a x y status, bus⟩
  | prepareCall (cpu : Processor) (bus : M) (entry : UInt16)
    (policy : cpu.exitPolicy = .whenStackEmpty zone) : Called zone ⟨cpu.prepareCall entry, bus⟩

lemma Called.sp (h : Called zone machine) : machine.cpu.sp = 0xFF := by
  cases h <;> rfl

lemma Called.exitPolicy (h : Called zone machine) :
    machine.cpu.exitPolicy = .whenStackEmpty zone := by
  cases h <;> assumption

end Entry

variable {M : Type} [Bus M]

/-! ## The count of stacked bytes -/

section Count

variable (machine : Machine M)

/-- The bytes that the next step puts on the stack, less those that it takes off.  A step that
fails, or ends the run, does neither. -/
def stackChange : ℤ :=
  match machine.step.1 with
  | .ok .continued => machine.next.pushes - machine.next.pulls
  | _ => 0

/-- The bytes that a number of steps have put on the stack, less those that they took off. -/
def stackedBytes : ℕ → ℤ
  | 0 => 0
  | n + 1 => stackedBytes n + (machine.after n).stackChange

/-- The next step ends the run. -/
def Finishes : Prop :=
  ∃ kind, machine.step.1 = .ok (.finished kind)

/-- The two bytes that the bus gives if the next instruction pulls them, the latest first. -/
def top : UInt8 × UInt8 :=
  let (low, bus) := Bus.read machine.located.2 (stackCell (machine.cpu.sp + 1))
  (low, Bus.stackByte bus (machine.cpu.sp + 2))

/-- The two bytes that the next instruction pushes if it is a call, the latest first. -/
def returnAddress : UInt8 × UInt8 :=
  (lowByte (machine.cpu.pc + 2), highByte (machine.cpu.pc + 2))

end Count

variable {machine : Machine M} {zone : UInt8} {n : ℕ}

lemma stackChange_eq_zero (h : machine.step.1 ≠ .ok .continued) : machine.stackChange = 0 := by
  rw [stackChange]
  split
  next goesOn => exact absurd goesOn h
  next => rfl

lemma stackChange_of_continued (h : machine.step.1 = .ok .continued) :
    machine.stackChange = machine.next.pushes - machine.next.pulls := by
  rw [stackChange, h]

/-- A step that does not go on leaves the stack pointer alone. -/
lemma sp_step_of_not_continued (h : machine.step.1 ≠ .ok .continued) :
    machine.step.2.cpu.sp = machine.cpu.sp := by
  rcases machine.step_cases with ⟨fault, refused⟩ | ⟨kind, empty⟩ | ⟨-, goesOn⟩
  · exact congrArg (·.2.cpu.sp) (step_refused refused).1
  · exact congrArg (·.2.cpu.sp) (step_returnFromEmpty empty).1
  · exact absurd goesOn h

/-- The stack pointer goes with the count, around page one. -/
lemma sp_step (other : machine.next ≠ .txs) :
    (machine.step.2.cpu.sp.toNat : ℤ) = (machine.cpu.sp.toNat - machine.stackChange) % 256 := by
  have bound := machine.cpu.sp.toNat_lt
  by_cases goesOn : machine.step.1 = .ok .continued
  · have pointer := (step_leaves goesOn).stackPointer
      (Mnemonic.destination?_ne_stackPointer other _)
    have few := machine.next.stack_bounds
    rw [pointer, stackChange_of_continued goesOn, UInt8.toNat_add, UInt8.toNat_sub,
      UInt8.toNat_ofNat', UInt8.toNat_ofNat']
    omega
  · rw [sp_step_of_not_continued goesOn, stackChange_eq_zero goesOn]
    omega

lemma finishes_iff : machine.Finishes ↔ ∃ kind, machine.ReturnsFromEmpty kind :=
  exists_congr fun _ => step_eq_finished_iff

/-! ## Along a run -/

/-- A number of steps from a call on, in which the stack pointer is moved by pushes and pulls only,
nothing is pulled that was not pushed, and the zone is left free. -/
structure StacksWithin (zone : UInt8) (machine : Machine M) (n : ℕ) : Prop where
  called : Called zone machine
  noTransfer : ∀ k < n, (machine.after k).next ≠ .txs
  room : ∀ k ≤ n, 0 ≤ machine.stackedBytes k ∧ machine.stackedBytes k ≤ 257 - zone.toNat

/-- What the stack pointer and the returns tell of the stack behind a number of steps. -/
structure ReturnsTell (machine : Machine M) (n : ℕ) : Prop where
  /-- The stack pointer is `$FF` less the bytes that are stacked. -/
  sp : ((machine.after n).cpu.sp.toNat : ℤ) = 255 - machine.stackedBytes n
  /-- `RTS` ends the run exactly if there is no return address left. -/
  fromSubroutine : (machine.after n).next = .rts →
    ((machine.after n).Finishes ↔ machine.stackedBytes n ≤ 1)
  /-- `RTI` ends the run exactly if there is no return address with a status left. -/
  fromInterrupt : (machine.after n).next = .rti →
    ((machine.after n).Finishes ↔ machine.stackedBytes n ≤ 2)
  /-- No other instruction ends it. -/
  others : (machine.after n).next ≠ .rts → (machine.after n).next ≠ .rti →
    ¬ (machine.after n).Finishes
  /-- `RTS` within a subroutine pulls two bytes. -/
  pulls : (machine.after n).next = .rts → 2 ≤ machine.stackedBytes n →
    (machine.after n).step.1 = .ok .continued ∧
      (machine.after (n + 1)).cpu.sp = (machine.after n).cpu.sp + 2 ∧
      machine.stackedBytes (n + 1) = machine.stackedBytes n - 2
  /-- If they are the bytes that a call has pushed, it goes on behind that call. -/
  returns : (machine.after n).next = .rts → 2 ≤ machine.stackedBytes n →
    ∀ call < n, (machine.after call).next = .jsr →
      (machine.after n).top = (machine.after call).returnAddress →
      (machine.after (n + 1)).cpu.pc = (machine.after call).cpu.pc + 3
  /-- Where page one is plain, they lie on top behind the call. -/
  pushes : Bus.PlainStack M → ∀ call < n, (machine.after call).next = .jsr →
    (machine.after (call + 1)).top = (machine.after call).returnAddress

namespace StacksWithin

lemma exitPolicy (h : StacksWithin zone machine n) :
    (machine.after n).cpu.exitPolicy = .whenStackEmpty zone := by
  rw [exitPolicy_after, h.called.exitPolicy]

lemma mono (h : StacksWithin zone machine (n + 1)) : StacksWithin zone machine n where
  called := h.called
  noTransfer k less := h.noTransfer k (by omega)
  room k le := h.room k (by omega)

/-- **The stack pointer counts the stacked bytes.** -/
lemma sp (large : 3 ≤ zone) (h : StacksWithin zone machine n) :
    ((machine.after n).cpu.sp.toNat : ℤ) = 255 - machine.stackedBytes n := by
  induction n with
  | zero =>
    rw [after, h.called.sp]
    rfl
  | succ n ih =>
    have width : 3 ≤ zone.toNat := UInt8.le_iff_toNat_le.mp large
    have moved := sp_step (h.noTransfer n (Nat.lt_succ_self n))
    have room := h.room (n + 1) le_rfl
    rw [stackedBytes] at room
    rw [after_succ, moved, ih h.mono, stackedBytes]
    omega

/-- A return ends the run exactly if fewer bytes are stacked than it pulls. -/
lemma returnsFromEmpty_iff (large : 3 ≤ zone) (h : StacksWithin zone machine n) (kind : Return) :
    (machine.after n).ReturnsFromEmpty kind ↔
      (machine.after n).next = kind.mnemonic ∧ machine.stackedBytes n < kind.pulls := by
  have width : 3 ≤ zone.toNat := UInt8.le_iff_toNat_le.mp large
  have pointer := h.sp large
  have room := h.room n le_rfl
  have policy := h.exitPolicy
  have few : 2 ≤ kind.pulls ∧ kind.pulls ≤ 3 := by cases kind <;> decide
  have inZone : ((machine.after n).cpu.sp.toNat + kind.pulls) % 256 < zone.toNat ↔
      machine.stackedBytes n < kind.pulls := by
    omega
  constructor
  · rintro ⟨next, -, wraps⟩
    rw [policy] at wraps
    exact ⟨next, inZone.mp wraps⟩
  · rintro ⟨next, less⟩
    refine ⟨next, ?_, ?_⟩
    · rw [policy]
      rfl
    · rw [policy]
      exact inZone.mpr less

/-- The same, for the one return that the next instruction is. -/
lemma finishes_iff (large : 3 ≤ zone) (h : StacksWithin zone machine n) (kind : Return)
    (next : (machine.after n).next = kind.mnemonic) :
    (machine.after n).Finishes ↔ machine.stackedBytes n < kind.pulls := by
  rw [Machine.finishes_iff]
  constructor
  · rintro ⟨other, empty⟩
    obtain rfl : other = kind := by
      have same : other.mnemonic = kind.mnemonic := empty.next.symm.trans next
      cases other <;> cases kind <;> first | rfl | cases same
    exact ((h.returnsFromEmpty_iff large other).mp empty).2
  · intro less
    exact ⟨kind, (h.returnsFromEmpty_iff large kind).mpr ⟨next, less⟩⟩

/-- A return for which enough bytes are stacked does not make the policy fire. -/
lemma silent (large : 3 ≤ zone) (h : StacksWithin zone machine n) (kind : Return)
    (next : (machine.after n).next = kind.mnemonic) (enough : kind.pulls ≤ machine.stackedBytes n) :
    (machine.after n).cpu.exitPolicy.fires (machine.after n).cpu.sp (UInt8.ofNat kind.pulls) =
      false := by
  rw [← Bool.not_eq_true, ExitPolicy.fires_iff]
  rintro ⟨enabled, wraps⟩
  have empty := (h.returnsFromEmpty_iff large kind).mp ⟨next, enabled, wraps⟩
  omega

end StacksWithin

/-- `RTS` goes behind the address that it pulls, if the policy does not fire. -/
lemma pc_step_return (next : machine.next = .rts)
    (silent : machine.cpu.exitPolicy.fires machine.cpu.sp 2 = false) :
    machine.step.2.cpu.pc = wordOf machine.top.1 machine.top.2 + 1 := by
  have executable : machine.next.isExecutable = true := by rw [next]; rfl
  have two : machine.cpu.sp + 1 + 1 = machine.cpu.sp + 2 := UInt8.add_assoc _ _ _
  have pulls : (machine.ready machine.located.1.crossedPage).exitPolicy.fires
      (machine.ready machine.located.1.crossedPage).sp 2 = false := silent
  rw [step_eq_execute executable, execution, next, Processor.execute,
    Processor.returnFromSubroutine, if_neg (Bool.not_eq_true _ ▸ pulls), top, ← two]
  rfl

/-- What a call leaves on top of the stack. -/
lemma top_call (plain : Bus.PlainStack M) (next : machine.next = .jsr) :
    machine.step.2.top = machine.returnAddress := by
  have pushes : machine.next = StackUse.subroutine.push := next
  have empty : Bus.Stacked machine.bus machine.cpu.sp [] := trivial
  obtain ⟨low, high, -⟩ := (push_stacked plain pushes empty (by decide)).1
  have two : machine.step.2.cpu.sp + 1 + 1 = machine.step.2.cpu.sp + 2 := UInt8.add_assoc _ _ _
  rw [two] at high
  refine Prod.ext ?_ ?_
  · exact (stackByte_located plain _).trans low
  · exact (plain.read _ _ _).trans ((stackByte_located plain _).trans high)

/-- **The policy ends a run at the return of the routine that was called, and at no other.**  The
bus may be any, and so may the code. -/
theorem returns_tell_depth (zone : UInt8) (large : 3 ≤ zone) (machine : Machine M) (n : ℕ)
    (h : StacksWithin zone machine n) : machine.ReturnsTell n where
  sp := h.sp large
  fromSubroutine next := by
    rw [h.finishes_iff large .fromSubroutine next, Return.pulls]
    omega
  fromInterrupt next := by
    rw [h.finishes_iff large .fromInterrupt next, Return.pulls]
    omega
  others notRts notRti := by
    rintro ⟨kind, finishes⟩
    have empty := step_eq_finished_iff.mp finishes
    cases kind with
    | fromSubroutine => exact notRts empty.next
    | fromInterrupt => exact notRti empty.next
  pulls next enough := by
    have executable : (machine.after n).next.isExecutable = true := by rw [next]; rfl
    have goesOn : (machine.after n).step.1 = .ok .continued := by
      refine step_continues executable fun kind empty => ?_
      have less := ((h.returnsFromEmpty_iff large kind).mp empty).2
      cases kind with
      | fromSubroutine => exact absurd less (not_lt.mpr enough)
      | fromInterrupt => cases next.symm.trans empty.next
    have change := stackChange_of_continued goesOn
    have pointer := (step_leaves goesOn).stackPointer
      (Mnemonic.destination?_ne_stackPointer (by rw [next]; decide) _)
    rw [next] at change pointer
    refine ⟨goesOn, ?_, ?_⟩
    · rw [after_succ, pointer]
      exact congrArg (· + 2) (UInt8.sub_zero _)
    · rw [stackedBytes, change]
      rfl
  returns next enough call _ _ same := by
    have behind := pc_step_return next (h.silent large .fromSubroutine next enough)
    rw [same, returnAddress, wordOf_lowByte_highByte] at behind
    exact behind.trans (UInt16.add_assoc _ _ _)
  pushes plain call _ next := top_call plain next

/-- A routine `JSR $0210; RTS` that has just been called, with the smallest zone, and the subroutine
`PHA; PLA; RTS` at `$0210`. -/
def withSubroutine : Machine Ram where
  cpu := { Processor.powerOn 0 with exitPolicy := .whenStackEmpty 3 }.prepareCall 0x0200
  bus := (Ram.empty.load 0x0200 [0x20, 0x10, 0x02, 0x60]).load 0x0210 [0x48, 0x68, 0x60]

namespace withSubroutine

lemma called : Called 3 withSubroutine :=
  .prepareCall _ _ _ rfl

/-- The first return, the fourth instruction, goes on behind the call, and the second one ends the
run. -/
theorem second_return_finishes :
    (withSubroutine.after 3).next = .rts ∧ ¬ (withSubroutine.after 3).Finishes ∧
      (withSubroutine.after 4).cpu.pc = 0x0203 ∧
      (withSubroutine.after 4).next = .rts ∧ (withSubroutine.after 4).Finishes := by
  have outer : StacksWithin 3 withSubroutine 4 := ⟨called, by decide +kernel, by decide +kernel⟩
  have first := returns_tell_depth 3 (by decide) withSubroutine 3 outer.mono
  have second := returns_tell_depth 3 (by decide) withSubroutine 4 outer
  have returns : (withSubroutine.after 3).next = .rts := by decide +kernel
  have again : (withSubroutine.after 4).next = .rts := by decide +kernel
  have depth : withSubroutine.stackedBytes 3 = 2 := by decide +kernel
  have left : withSubroutine.stackedBytes 4 = 0 := by decide +kernel
  refine ⟨returns, ?_, ?_, again, ?_⟩
  · rw [first.fromSubroutine returns, depth]
    decide
  · have behind := first.returns returns depth.ge 0 (by decide) (by decide +kernel)
      (by decide +kernel)
    rw [behind]
    decide +kernel
  · rw [second.fromSubroutine again, left]
    decide

end withSubroutine

end Machine

end SidScore
