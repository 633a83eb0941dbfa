import SidScore.Proofs.Memory.Cells
import SidScore.Proofs.Processor.Fetching
import SidScore.Proofs.Word

/-!
# Faults and the last return

A step goes wrong in two ways only, and the byte at the program counter decides between them: it
locks the processor up, or it is no instruction that is known.  The third fault, a store into the
byte of an immediate operand, does not occur, because the opcode matrix gives no such operand to an
instruction that stores.  A step that is at fault has asked the bus for one byte and has changed
nothing that the next instruction depends on.

A step ends a run in two ways only as well: a return would leave the stack pointer within the zone
of the policy.  Such a return is paid for like any other, and pulls nothing.
-/

namespace SidScore

/-! ## Bytes that are no instruction -/

namespace Opcode

/-- The bytes that lock the processor up. -/
def jamBytes : List UInt8 :=
  [0x02, 0x12, 0x22, 0x32, 0x42, 0x52, 0x62, 0x72, 0x92, 0xB2, 0xD2, 0xF2]

/-- The other bytes that are no instruction: every fourth one, and two more. -/
def Unrecognised (code : UInt8) : Prop :=
  code.toNat % 4 = 3 ∨ code = 0x9C ∨ code = 0x9E

instance (code : UInt8) : Decidable (Unrecognised code) :=
  inferInstanceAs (Decidable (_ ∨ _))

lemma decode_mem_zipIdx (code : UInt8) : (decode code, code.toNat) ∈ matrix.toList.zipIdx := by
  rw [List.mk_mem_zipIdx_iff_getElem?, Vector.getElem?_toList]
  exact Vector.getElem?_eq_getElem code.toNat_lt

/-- What holds of every row and its byte holds of every byte and its row. -/
lemma forall_decode {P : Opcode → UInt8 → Prop}
    (rows : ∀ row ∈ matrix.toList.zipIdx, P row.1 (UInt8.ofNat row.2)) (code : UInt8) :
    P (decode code) code := by
  have row := rows _ (decode_mem_zipIdx code)
  rwa [UInt8.ofNat_toNat] at row

lemma mnemonic_eq_jam_iff (code : UInt8) : (decode code).mnemonic = .jam ↔ code ∈ jamBytes :=
  forall_decode (P := fun op code => op.mnemonic = .jam ↔ code ∈ jamBytes) (by decide +kernel) code

lemma mnemonic_eq_undocumented_iff (code : UInt8) :
    (decode code).mnemonic = .undocumented ↔ Unrecognised code :=
  forall_decode (P := fun op code => op.mnemonic = .undocumented ↔ Unrecognised code)
    (by decide +kernel) code

/-- What a byte is refused for. -/
lemma refusal?_eq_some_iff {op : Opcode} {code : UInt8} {address : UInt16}
    {fault : ExecutionFault} : op.refusal? code address = some fault ↔
      (op.mnemonic = .jam ∧ fault = .halted code address) ∨
        (op.mnemonic = .undocumented ∧ fault = .unimplementedOpcode code address) := by
  unfold refusal?
  split
  next jam => simp [jam, eq_comm]
  next undocumented => simp [undocumented, eq_comm]
  next jam undocumented =>
    constructor
    · intro refused
      cases refused
    · rintro (⟨h, -⟩ | ⟨h, -⟩)
      · exact absurd h jam
      · exact absurd h undocumented

lemma isExecutable_of_refusal?_eq_none {op : Opcode} {code : UInt8} {address : UInt16}
    (h : op.refusal? code address = none) : op.isExecutable = true := by
  rw [refusal?] at h
  rw [isExecutable]
  cases mnemonic : op.mnemonic <;> simp_all [Mnemonic.isExecutable]

end Opcode

/-! ## Returns -/

namespace Return

/-- The instruction. -/
def mnemonic : Return → Mnemonic
  | fromSubroutine => .rts
  | fromInterrupt => .rti

/-- The number of bytes that it pulls. -/
def pulls : Return → ℕ
  | fromSubroutine => 2
  | fromInterrupt => 3

end Return

lemma ExitPolicy.fires_iff (policy : ExitPolicy) (sp : UInt8) (pulls : ℕ) :
    policy.fires sp (UInt8.ofNat pulls) = true ↔
      policy.enabled = true ∧ (sp.toNat + pulls) % 256 < policy.wrapZone.toNat := by
  rw [fires, Bool.and_eq_true, decide_eq_true_iff, UInt8.lt_iff_toNat_lt, UInt8.toNat_add,
    UInt8.toNat_ofNat', Nat.add_mod_mod]

/-- Both returns have one row each, with nothing behind the opcode and six cycles. -/
lemma Opcode.decode_return {code : UInt8} {kind : Return}
    (h : (decode code).mnemonic = kind.mnemonic) :
    decode code = .plain kind.mnemonic .implicit 6 := by
  have rows : ∀ op ∈ matrix.toList, (op.mnemonic = .rts → op = .plain .rts .implicit 6) ∧
      (op.mnemonic = .rti → op = .plain .rti .implicit 6) := by
    decide +kernel
  obtain ⟨subroutine, interrupt⟩ := rows _ (decode_mem code)
  cases kind with
  | fromSubroutine => exact subroutine h
  | fromInterrupt => exact interrupt h

namespace Processor

variable (p : Processor) {o : Operand}

/-- A return from an empty stack ends the run where the processor stands. -/
lemma execute_return_empty {kind : Return}
    (fires : p.exitPolicy.fires p.sp (UInt8.ofNat kind.pulls) = true) :
    p.execute kind.mnemonic o = pure ⟨p, .ok (.finished kind)⟩ := by
  cases kind with
  | fromSubroutine => exact if_pos fires
  | fromInterrupt => exact if_pos fires

/-- Any other return goes on. -/
lemma execute_return_goesOn {kind : Return}
    (silent : p.exitPolicy.fires p.sp (UInt8.ofNat kind.pulls) = false) :
    (p.execute kind.mnemonic o).Always fun step => step.result = .ok .continued := by
  cases kind with
  | fromSubroutine =>
    have pulled : p.execute .rts o = _ := if_neg (Bool.not_eq_true _ ▸ silent)
    rw [Return.mnemonic, pulled]
    exact fun _ _ => rfl
  | fromInterrupt =>
    have pulled : p.execute .rti o = _ := if_neg (Bool.not_eq_true _ ▸ silent)
    rw [Return.mnemonic, pulled]
    exact fun _ _ _ => rfl

/-- Whatever is no return goes on. -/
lemma execute_continues {mnemonic : Mnemonic} (other : ∀ kind : Return, mnemonic ≠ kind.mnemonic)
    (writable : mnemonic.writesBack = true → o.Writable) :
    (p.execute mnemonic o).Always fun step => step.result = .ok .continued := by
  cases conditional : mnemonic.condition? with
  | some condition =>
    rw [execute_branch p conditional]
    rfl
  | none =>
    cases transfers : mnemonic.transfers with
    | true =>
      match mnemonic with
      | .jmp | .jsr => rfl
      | .brk => exact fun _ _ => rfl
      | .rts => exact absurd rfl (other .fromSubroutine)
      | .rti => exact absurd rfl (other .fromInterrupt)
    | false =>
      have untaken : mnemonic.branches p.flags = false := by
        rw [Mnemonic.branches, conditional]
        rfl
      exact (p.execute_goesOn transfers untaken writable).imp fun _ goesOn => goesOn.result

end Processor

/-! ## A step that fails, or ends the run -/

/-- Reading one address changes the byte of none. -/
def Bus.ReadsKeepBytes (M : Type) [Bus M] : Prop :=
  ∀ (memory : M) (address other : UInt16),
    (Bus.read (Bus.read memory address).2 other).1 = (Bus.read memory other).1

lemma Ram.readsKeepBytes : Bus.ReadsKeepBytes Ram :=
  fun _ _ _ => rfl

lemma BankedMemory.readsKeepBytes : Bus.ReadsKeepBytes BankedMemory :=
  fun memory address other => memory.content_markRead address (memory.source other)

namespace Machine

variable {M : Type} [Bus M] (machine : Machine M)

/-- The bus was asked for the byte at the program counter, and for nothing else. -/
structure OnlyFetches : Prop where
  reads : machine.cpu.step.reads machine.bus = [machine.cpu.pc]
  writes : machine.cpu.step.writes machine.bus = []
  /-- The memory is as that one read has left it. -/
  bus : machine.step.2.bus = (Bus.read machine.bus machine.cpu.pc).2
  /-- So every address holds what it held, if reading changes no byte. -/
  byte : Bus.ReadsKeepBytes M → ∀ address,
    (Bus.read machine.step.2.bus address).1 = (Bus.read machine.bus address).1

/-- The next instruction is a return whose pulls would leave the stack pointer, counted around its
page, within the zone of a policy in force. -/
structure ReturnsFromEmpty (kind : Return) : Prop where
  next : machine.next = kind.mnemonic
  enabled : machine.cpu.exitPolicy.enabled = true
  inZone : (machine.cpu.sp.toNat + kind.pulls) % 256 < machine.cpu.exitPolicy.wrapZone.toNat

/-- How a step can fail or end the run, and what it leaves then. -/
structure FailsCleanly : Prop where
  /-- It fails exactly for a byte that is no instruction, and names the byte and its address. -/
  fails_iff : ∀ fault, machine.step.1 = .error fault ↔
    (machine.code ∈ Opcode.jamBytes ∧ fault = .halted machine.code machine.cpu.pc) ∨
      (Opcode.Unrecognised machine.code ∧
        fault = .unimplementedOpcode machine.code machine.cpu.pc)
  /-- No store fails. -/
  stores : ∀ address, machine.step.1 ≠ .error (.readOnlyOperand address)
  /-- A fault leaves registers, flags, cycle count and policy as they were. -/
  failed : ∀ fault, machine.step.1 = .error fault →
    machine.step.2.cpu.SameState machine.cpu ∧ machine.OnlyFetches
  /-- It ends the run exactly for a return from an empty stack. -/
  finishes_iff : ∀ kind, machine.step.1 = .ok (.finished kind) ↔ machine.ReturnsFromEmpty kind
  /-- Such a return moves behind itself and is paid for, and nothing is pulled. -/
  finished : ∀ kind, machine.step.1 = .ok (.finished kind) →
    machine.step.2.cpu.SameState
        { machine.cpu with pc := machine.cpu.pc + 1, cycles := machine.cpu.cycles + 6 } ∧
      machine.OnlyFetches

variable {machine}

/-- A step that fetches and does no more has no other access. -/
lemma onlyFetches_of_dispatch (step : Step)
    (h : machine.cpu.dispatch machine.code = pure step) :
    machine.step = (step.result, ⟨step.cpu, (Bus.read machine.bus machine.cpu.pc).2⟩) ∧
      machine.OnlyFetches := by
  obtain ⟨cpu, memory⟩ := machine
  have program : cpu.dispatch (Bus.read memory cpu.pc).1 = .done step := h
  have ran : cpu.step.run memory =
      (cpu.dispatch (Bus.read memory cpu.pc).1).run (Bus.read memory cpu.pc).2 := rfl
  have stepped : (Machine.mk cpu memory).step =
      (step.result, ⟨step.cpu, (Bus.read memory cpu.pc).2⟩) := by
    rw [Machine.step, ran, program]
    rfl
  refine ⟨stepped, ?_, ?_, congrArg (·.2.bus) stepped, fun kept address => ?_⟩
  · show cpu.pc :: (cpu.dispatch (Bus.read memory cpu.pc).1).reads _ = [cpu.pc]
    rw [program, BusProgram.reads]
  · show (cpu.dispatch (Bus.read memory cpu.pc).1).writes _ = []
    rw [program, BusProgram.writes]
  · rw [stepped]
    exact kept memory cpu.pc address

/-- A byte that is refused. -/
lemma step_refused {fault : ExecutionFault}
    (h : machine.fetched.refusal? machine.code machine.cpu.pc = some fault) :
    machine.step = (.error fault, ⟨{ machine.cpu with fetchedAt := machine.cpu.pc },
        (Bus.read machine.bus machine.cpu.pc).2⟩) ∧ machine.OnlyFetches := by
  apply onlyFetches_of_dispatch ⟨_, .error fault⟩
  have refused : (Opcode.decode machine.code).refusal? machine.code machine.cpu.pc = some fault := h
  rw [Processor.dispatch]
  simp only [refused]

/-- A return from an empty stack. -/
lemma step_returnFromEmpty {kind : Return} (h : machine.ReturnsFromEmpty kind) :
    machine.step = (.ok (.finished kind), ⟨machine.ready false,
        (Bus.read machine.bus machine.cpu.pc).2⟩) ∧ machine.OnlyFetches := by
  apply onlyFetches_of_dispatch ⟨machine.ready false, .ok (.finished kind)⟩
  have row : Opcode.decode machine.code = .plain kind.mnemonic .implicit 6 :=
    Opcode.decode_return h.next
  have executable : (Opcode.decode machine.code).isExecutable = true := by
    rw [row]
    cases kind <;> rfl
  have fires : (machine.ready false).exitPolicy.fires (machine.ready false).sp
      (UInt8.ofNat kind.pulls) = true :=
    (ExitPolicy.fires_iff _ _ _).mpr ⟨h.enabled, h.inZone⟩
  rw [machine.cpu.dispatch_eq executable, row]
  have fetched : machine.ready false = { machine.cpu with fetchedAt := machine.cpu.pc }.advance
      (.plain kind.mnemonic .implicit 6) false := by
    rw [ready]
    exact congrArg (Processor.advance _ · false) row
  rw [fetched] at fires ⊢
  exact Processor.execute_return_empty _ fires

/-- Any other instruction goes on. -/
lemma step_continues (executable : machine.next.isExecutable = true)
    (other : ∀ kind, ¬ machine.ReturnsFromEmpty kind) : machine.step.1 = .ok .continued := by
  rw [step_eq_execute executable]
  by_cases returns : ∃ kind : Return, machine.next = kind.mnemonic
  · obtain ⟨kind, next⟩ := returns
    have silent : machine.cpu.exitPolicy.fires machine.cpu.sp (UInt8.ofNat kind.pulls) = false := by
      rw [← Bool.not_eq_true, ExitPolicy.fires_iff]
      rintro ⟨enabled, inZone⟩
      exact other kind ⟨next, enabled, inZone⟩
    have goesOn := Processor.execute_return_goesOn (machine.ready machine.located.1.crossedPage)
      (o := machine.located.1.operand) silent
    rw [← next] at goesOn
    exact goesOn.run _
  · have straight : ∀ kind : Return, machine.next ≠ kind.mnemonic :=
      fun kind next => returns ⟨kind, next⟩
    exact (Processor.execute_continues _ straight located_writable).run _

/-- What a step comes to. -/
lemma step_cases (machine : Machine M) :
    (∃ fault, machine.fetched.refusal? machine.code machine.cpu.pc = some fault) ∨
      (∃ kind, machine.ReturnsFromEmpty kind) ∨
        machine.next.isExecutable = true ∧ machine.step.1 = .ok .continued := by
  cases refusal : machine.fetched.refusal? machine.code machine.cpu.pc with
  | some fault => exact .inl ⟨fault, rfl⟩
  | none =>
    by_cases empty : ∃ kind, machine.ReturnsFromEmpty kind
    · exact .inr (.inl empty)
    · have executable : machine.next.isExecutable = true :=
        Opcode.isExecutable_of_refusal?_eq_none refusal
      exact .inr (.inr ⟨executable, step_continues executable fun kind h => empty ⟨kind, h⟩⟩)

lemma step_eq_error_iff {fault : ExecutionFault} : machine.step.1 = .error fault ↔
    machine.fetched.refusal? machine.code machine.cpu.pc = some fault := by
  constructor
  · intro fails
    rcases machine.step_cases with ⟨other, refused⟩ | ⟨kind, empty⟩ | ⟨-, goesOn⟩
    · rw [(step_refused refused).1] at fails
      cases fails
      exact refused
    · rw [(step_returnFromEmpty empty).1] at fails
      cases fails
    · rw [goesOn] at fails
      cases fails
  · intro refused
    rw [(step_refused refused).1]

/-- What comes to a result can run. -/
lemma isExecutable_of_ok {outcome : Outcome} (h : machine.step.1 = .ok outcome) :
    machine.next.isExecutable = true := by
  have accepted : machine.fetched.refusal? machine.code machine.cpu.pc = none := by
    refine Option.eq_none_iff_forall_ne_some.mpr fun fault refused => ?_
    rw [step_eq_error_iff.mpr refused] at h
    cases h
  exact Opcode.isExecutable_of_refusal?_eq_none accepted

lemma step_eq_finished_iff {kind : Return} :
    machine.step.1 = .ok (.finished kind) ↔ machine.ReturnsFromEmpty kind := by
  constructor
  · intro finishes
    rcases machine.step_cases with ⟨fault, refused⟩ | ⟨other, empty⟩ | ⟨-, goesOn⟩
    · rw [(step_refused refused).1] at finishes
      cases finishes
    · rw [(step_returnFromEmpty empty).1] at finishes
      cases finishes
      exact empty
    · rw [goesOn] at finishes
      cases finishes
  · intro empty
    rw [(step_returnFromEmpty empty).1]

/-- **A step fails cleanly, and only where it must.**  On every bus and in every state, a step fails
exactly for the bytes that are no instruction, and ends the run exactly for a return from an empty
stack; it has read one byte then, and changed no more than the state says. -/
theorem step_failsCleanly (machine : Machine M) : machine.FailsCleanly where
  fails_iff fault := by
    rw [step_eq_error_iff, Opcode.refusal?_eq_some_iff, ← Opcode.mnemonic_eq_jam_iff,
      ← Opcode.mnemonic_eq_undocumented_iff]
    rfl
  stores address fails := by
    rcases Opcode.refusal?_eq_some_iff.mp (step_eq_error_iff.mp fails) with ⟨-, h⟩ | ⟨-, h⟩
    · cases h
    · cases h
  failed fault fails := by
    obtain ⟨step, fetches⟩ := step_refused (step_eq_error_iff.mp fails)
    rw [step]
    exact ⟨⟨rfl, rfl, rfl, rfl, rfl, rfl, rfl, rfl⟩, fetches⟩
  finishes_iff kind := step_eq_finished_iff
  finished kind finishes := by
    have empty := step_eq_finished_iff.mp finishes
    obtain ⟨step, fetches⟩ := step_returnFromEmpty empty
    have row : machine.fetched = .plain kind.mnemonic .implicit 6 := Opcode.decode_return empty.next
    rw [step, ready, row]
    refine ⟨⟨rfl, rfl, rfl, rfl, rfl, rfl, ?_, rfl⟩, fetches⟩
    exact UInt64.add_zero _

end Machine

end SidScore
