import Mathlib.Tactic.Common
import SidScore.Processor.Machine

/-!
# What an instruction does to the processor

Most instructions change registers, flags and memory, and go on behind themselves at the cost of
their row in the opcode matrix.  What they read cannot change that.  So facts of this kind are
proved of the bus program alone, for whatever a memory answers: `BusProgram.Always`.

The instructions that go elsewhere are the branches, each with its condition on the flags, and five
others, `Mnemonic.transfers`.
-/

namespace SidScore

/-! ## Whatever the memory answers -/

namespace BusProgram

variable {α β M : Type} {P : α → Prop} {Q : β → Prop}

/-- Whatever is read, the program ends in a value with the property. -/
def Always (P : α → Prop) : BusProgram α → Prop
  | done value => P value
  | read _ next => ∀ byte, (next byte).Always P
  | write _ _ next => next.Always P

lemma Always.run [Bus M] {program : BusProgram α} (h : program.Always P) (memory : M) :
    P (program.run memory).1 := by
  induction program generalizing memory with
  | done value => exact h
  | read address next ih => exact ih _ (h _) _
  | write address value next ih => exact ih h _

lemma Always.bind {first : BusProgram α} {second : α → BusProgram β} (h : first.Always P)
    (next : ∀ value, P value → (second value).Always Q) : (first >>= second).Always Q := by
  induction first with
  | done value => exact next value h
  | read address rest ih => exact fun byte => ih byte (h byte)
  | write address value rest ih => exact ih h

lemma Always.imp {R : α → Prop} {program : BusProgram α} (h : program.Always P)
    (implies : ∀ value, P value → R value) : program.Always R := by
  induction program with
  | done value => exact implies value h
  | read address next ih => exact fun byte => ih byte (h byte)
  | write address value next ih => exact ih h

lemma always_true (program : BusProgram α) : program.Always fun _ => True := by
  induction program with
  | done value => trivial
  | read address next ih => exact ih
  | write address value next ih => exact ih

end BusProgram

/-! ## Kinds of instructions -/

namespace Mnemonic

/-- The condition of a branch. -/
def condition? : Mnemonic → Option (Flags → Bool)
  | bcc => some fun f => !f.carry
  | bcs => some fun f => f.carry
  | bne => some fun f => !f.zero
  | beq => some fun f => f.zero
  | bpl => some fun f => !f.negative
  | bmi => some fun f => f.negative
  | bvc => some fun f => !f.overflow
  | bvs => some fun f => f.overflow
  | _ => none

/-- A branch whose condition holds. -/
def branches (mnemonic : Mnemonic) (flags : Flags) : Bool :=
  mnemonic.condition?.any fun condition => condition flags

/-- An instruction that goes elsewhere whatever the flags. -/
def transfers : Mnemonic → Bool
  | jmp | jsr | rts | rti | brk => true
  | _ => false

/-- An instruction that writes to its operand. -/
def writesBack : Mnemonic → Bool
  | sta | stx | sty | asl | lsr | rol | ror | inc | dec => true
  | _ => false

end Mnemonic

/-- The operand can be written. -/
def Operand.Writable : Operand → Prop
  | immediate _ => False
  | register _ | memory _ => True

lemma Operand.register_writable (r : Register) : (register r).Writable :=
  trivial

namespace Processor

open BusProgram

variable (p : Processor) {o : Operand}

/-- The step went through, and left the processor at its place with nothing more to pay. -/
structure GoesOn (step : Step) : Prop where
  result : step.result = .ok .continued
  pc : step.cpu.pc = p.pc
  cycles : step.cpu.cycles = p.cycles

/-! ## Straight on -/

lemma consume_goesOn {update : UInt8 → Processor} (pc : ∀ value, (update value).pc = p.pc)
    (cycles : ∀ value, (update value).cycles = p.cycles) :
    (p.consume o update).Always p.GoesOn :=
  (always_true (o.load p)).bind fun value _ => ⟨rfl, pc value, cycles value⟩

/-- What is written back goes into a register or to memory. -/
lemma store_always (writable : o.Writable) (value : UInt8) : (o.store value p).Always fun outcome =>
    ∃ after, outcome = .ok after ∧ after.pc = p.pc ∧ after.cycles = p.cycles := by
  cases o with
  | register r => cases r <;> exact ⟨_, rfl, rfl, rfl⟩
  | immediate byte => exact writable.elim
  | memory address => exact ⟨p, rfl, rfl, rfl⟩

lemma storeRegister_goesOn (writable : o.Writable) (r : Register) :
    (p.storeRegister r o).Always p.GoesOn := by
  refine (p.store_always writable (p.get r)).bind fun outcome stored => ?_
  obtain ⟨after, rfl, pc, cycles⟩ := stored
  exact ⟨rfl, pc, cycles⟩

lemma modify_goesOn (writable : o.Writable) (update : UInt8 → ByteResult) :
    (p.modify o update).Always p.GoesOn := by
  refine (always_true (o.load p)).bind fun value _ => ?_
  refine (p.store_always writable (update value).1).bind fun outcome stored => ?_
  obtain ⟨after, rfl, pc, cycles⟩ := stored
  exact ⟨rfl, pc, cycles⟩

/-- A branch goes to its operand's address exactly if its condition holds. -/
lemma execute_branch {mnemonic : Mnemonic} {condition : Flags → Bool}
    (h : mnemonic.condition? = some condition) :
    p.execute mnemonic o = pure (.continued (p.branch (condition p.flags) o)) := by
  cases mnemonic <;> cases h <;> rfl

/-- An instruction that neither branches nor transfers goes on where it stands. -/
lemma execute_goesOn {mnemonic : Mnemonic} (straight : mnemonic.transfers = false)
    (untaken : mnemonic.branches p.flags = false)
    (writable : mnemonic.writesBack = true → o.Writable) :
    (p.execute mnemonic o).Always p.GoesOn := by
  cases conditional : mnemonic.condition? with
  | some condition =>
    have refused : condition p.flags = false := by
      simpa [Mnemonic.branches, conditional] using untaken
    rw [execute_branch p conditional, refused]
    exact ⟨rfl, rfl, rfl⟩
  | none =>
    match mnemonic with
    | .adc | .sbc | .cmp | .cpx | .cpy | .bit =>
      exact p.consume_goesOn (fun _ => rfl) fun _ => rfl
    | .and | .ora | .eor | .lda | .ldx | .ldy =>
      exact p.consume_goesOn (fun _ => rfl) fun _ => rfl
    | .sta | .stx | .sty => exact p.storeRegister_goesOn (writable rfl) _
    | .asl | .lsr | .rol | .ror | .inc | .dec =>
      rw [execute]
      exact p.modify_goesOn (writable rfl) _
    | .inx | .iny | .dex | .dey =>
      rw [execute]
      exact p.modify_goesOn (Operand.register_writable _) _
    | .pla | .plp => exact fun _ => ⟨rfl, rfl, rfl⟩
    | .pha | .php => exact ⟨rfl, rfl, rfl⟩
    | .clc | .sec | .cli | .sei | .cld | .sed | .clv => exact ⟨rfl, rfl, rfl⟩
    | .tax | .tay | .tsx | .txa | .tya | .txs => exact ⟨rfl, rfl, rfl⟩
    | .nop | .jam | .undocumented => exact ⟨rfl, rfl, rfl⟩

/-! ## Elsewhere -/

/-- A taken branch goes to the target and pays for it. -/
lemma execute_taken {mnemonic : Mnemonic} (taken : mnemonic.branches p.flags = true)
    (target : UInt16) :
    p.execute mnemonic (.memory target) = pure (.continued
      { p with pc := target, cycles := p.cycles + (if samePage p.pc target then 1 else 2) }) := by
  cases conditional : mnemonic.condition? with
  | some condition =>
    have holds : condition p.flags = true := by
      simpa [Mnemonic.branches, conditional] using taken
    rw [execute_branch p conditional, holds]
    rfl
  | none => simp [Mnemonic.branches, conditional] at taken

lemma jump_cycles : (p.jump o).cycles = p.cycles := by
  cases o <;> rfl

/-- The instructions that transfer control come to a result at the cost of their row. -/
lemma execute_transfer {mnemonic : Mnemonic} (transfers : mnemonic.transfers = true) :
    (p.execute mnemonic o).Always fun step =>
      (∃ outcome, step.result = .ok outcome) ∧ step.cpu.cycles = p.cycles := by
  match mnemonic with
  | .jmp => exact ⟨⟨_, rfl⟩, p.jump_cycles⟩
  | .jsr => exact ⟨⟨_, rfl⟩, jump_cycles _⟩
  | .brk => exact fun _ _ => ⟨⟨_, rfl⟩, rfl⟩
  | .rts =>
    rw [execute, returnFromSubroutine]
    split
    · exact ⟨⟨_, rfl⟩, rfl⟩
    · exact fun _ _ => ⟨⟨_, rfl⟩, rfl⟩
  | .rti =>
    rw [execute, returnFromInterrupt]
    split
    · exact ⟨⟨_, rfl⟩, rfl⟩
    · exact fun _ _ _ => ⟨⟨_, rfl⟩, rfl⟩

/-! ## What stays -/

lemma consume_exitPolicy {update : UInt8 → Processor}
    (kept : ∀ value, (update value).exitPolicy = p.exitPolicy) :
    (p.consume o update).Always fun step => step.cpu.exitPolicy = p.exitPolicy :=
  (always_true (o.load p)).bind fun value _ => kept value

lemma store_exitPolicy (value : UInt8) : (o.store value p).Always fun outcome =>
    ∀ after, outcome = .ok after → after.exitPolicy = p.exitPolicy := by
  cases o with
  | register r =>
    rintro _ ⟨⟩
    cases r <;> rfl
  | immediate byte =>
    rintro _ ⟨⟩
  | memory address =>
    rintro _ ⟨⟩
    rfl

lemma storeRegister_exitPolicy (r : Register) :
    (p.storeRegister r o).Always fun step => step.cpu.exitPolicy = p.exitPolicy := by
  refine (p.store_exitPolicy (p.get r)).bind fun outcome kept => ?_
  cases outcome with
  | error fault => rfl
  | ok after => exact kept after rfl

lemma modify_exitPolicy (update : UInt8 → ByteResult) :
    (p.modify o update).Always fun step => step.cpu.exitPolicy = p.exitPolicy := by
  refine (always_true (o.load p)).bind fun value _ => ?_
  refine (p.store_exitPolicy (update value).1).bind fun outcome kept => ?_
  cases outcome with
  | error fault => rfl
  | ok after => exact kept after rfl

lemma branch_exitPolicy (taken : Bool) : (p.branch taken o).exitPolicy = p.exitPolicy := by
  cases taken <;> cases o <;> rfl

lemma jump_exitPolicy : (p.jump o).exitPolicy = p.exitPolicy := by
  cases o <;> rfl

/-- No instruction changes the exit policy. -/
lemma execute_exitPolicy (mnemonic : Mnemonic) :
    (p.execute mnemonic o).Always fun step => step.cpu.exitPolicy = p.exitPolicy := by
  match mnemonic with
  | .adc | .sbc | .cmp | .cpx | .cpy | .bit => exact p.consume_exitPolicy fun _ => rfl
  | .and | .ora | .eor | .lda | .ldx | .ldy => exact p.consume_exitPolicy fun _ => rfl
  | .sta | .stx | .sty => exact p.storeRegister_exitPolicy _
  | .asl | .lsr | .rol | .ror | .inc | .dec =>
    rw [execute]
    exact p.modify_exitPolicy _
  | .inx | .iny | .dex | .dey =>
    rw [execute]
    exact p.modify_exitPolicy _
  | .bcc | .bcs | .bne | .beq | .bpl | .bmi | .bvc | .bvs => exact p.branch_exitPolicy _
  | .jmp => exact p.jump_exitPolicy
  | .jsr => exact jump_exitPolicy _
  | .rts =>
    rw [execute, returnFromSubroutine]
    split
    · rfl
    · exact fun _ _ => rfl
  | .rti =>
    rw [execute, returnFromInterrupt]
    split
    · rfl
    · exact fun _ _ _ => rfl
  | .brk => exact fun _ _ => rfl
  | .pla | .plp => exact fun _ => rfl
  | .pha | .php => rfl
  | .clc | .sec | .cli | .sei | .cld | .sed | .clv => rfl
  | .tax | .tay | .tsx | .txa | .tya | .txs => rfl
  | .nop | .jam | .undocumented => rfl

lemma step_exitPolicy : p.step.Always fun step => step.cpu.exitPolicy = p.exitPolicy := by
  intro code
  unfold dispatch
  dsimp only
  split
  · rfl
  · refine (always_true _).bind fun located _ => ?_
    exact execute_exitPolicy ({ p with fetchedAt := p.pc }.advance _ located.crossedPage) _

end Processor

end SidScore
