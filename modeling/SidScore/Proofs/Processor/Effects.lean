import SidScore.Proofs.Processor.Faults
import SidScore.Proofs.Processor.Stack

/-!
# What an instruction leaves alone

The programmer's manual has a line for each mnemonic: the register that takes its result, the flags
that it affects, the bytes that it pushes or pulls.  That table is written down here, mnemonic by
mnemonic, and a step changes nothing beyond it: no other register, no other flag and no other byte
of memory (`Machine.ChangesAsDocumented`).

The table has no line in which Break is affected other than by a pull, and a pull clears it.  So the
flag stays clear from power-on, or from the entry of a routine, for ever after; it is set only in
the bytes that are pushed.
-/

namespace SidScore

open Processor (stackCell)

/-! ## The manual -/

/-- The status flags by name. -/
inductive StatusFlag where
  | negative | overflow | brk | decimal | interruptDisable | zero | carry
  deriving Repr, DecidableEq

namespace Mnemonic

/-- The register that takes the result.  A shift has one if its operand is the accumulator. -/
def destination? : Mnemonic → Mode → Option Register
  | adc, _ | sbc, _ | and, _ | ora, _ | eor, _ | lda, _ | pla, _ | txa, _ | tya, _ =>
    some .accumulator
  | ldx, _ | tax, _ | tsx, _ | inx, _ | dex, _ => some .indexX
  | ldy, _ | tay, _ | iny, _ | dey, _ => some .indexY
  | txs, _ => some .stackPointer
  | asl, .accumulator | lsr, .accumulator | rol, .accumulator | ror, .accumulator =>
    some .accumulator
  | _, _ => none

/-- The number of bytes pushed. -/
def pushes : Mnemonic → ℕ
  | pha | php => 1
  | jsr => 2
  | brk => 3
  | _ => 0

/-- The number of bytes pulled. -/
def pulls : Mnemonic → ℕ
  | pla | plp => 1
  | rts => 2
  | rti => 3
  | _ => 0

/-- The instruction leaves the stack alone. -/
def sparesStack (mnemonic : Mnemonic) : Bool :=
  mnemonic.pushes == 0 && mnemonic.pulls == 0

/-- The flags that may change. -/
def affected : Mnemonic → List StatusFlag
  | lda | ldx | ldy | pla | and | ora | eor => [.negative, .zero]
  | inc | dec | inx | iny | dex | dey => [.negative, .zero]
  | tax | tay | tsx | txa | tya => [.negative, .zero]
  | asl | lsr | rol | ror | cmp | cpx | cpy => [.negative, .zero, .carry]
  | bit => [.negative, .overflow, .zero]
  | adc | sbc => [.negative, .overflow, .zero, .carry]
  | plp | rti => [.negative, .overflow, .brk, .decimal, .interruptDisable, .zero, .carry]
  | brk | cli | sei => [.interruptDisable]
  | clc | sec => [.carry]
  | cld | sed => [.decimal]
  | clv => [.overflow]
  | _ => []

/-- The flag that is set or cleared whatever the operand, and its value. -/
def assigns? : Mnemonic → Option (StatusFlag × Bool)
  | clc => some (.carry, false)
  | sec => some (.carry, true)
  | cli => some (.interruptDisable, false)
  | sei | brk => some (.interruptDisable, true)
  | cld => some (.decimal, false)
  | sed => some (.decimal, true)
  | clv => some (.overflow, false)
  | _ => none

/-- The instruction takes all flags from the stack. -/
def PullsFlags (mnemonic : Mnemonic) : Prop :=
  mnemonic = plp ∨ mnemonic = rti

instance (mnemonic : Mnemonic) : Decidable mnemonic.PullsFlags :=
  inferInstanceAs (Decidable (_ ∨ _))

/-- Break is affected by the pulls of the status, and by nothing else. -/
lemma brk_mem_affected_iff (mnemonic : Mnemonic) :
    .brk ∈ mnemonic.affected ↔ mnemonic.PullsFlags := by
  cases mnemonic <;> decide

end Mnemonic

/-! ## Flags -/

namespace Flags

/-- The value of a flag. -/
def get (f : Flags) : StatusFlag → Bool
  | .negative => f.negative
  | .overflow => f.overflow
  | .brk => f.brk
  | .decimal => f.decimal
  | .interruptDisable => f.interruptDisable
  | .zero => f.zero
  | .carry => f.carry

/-- A flag set or cleared. -/
def assign (f : Flags) (flag : StatusFlag) (value : Bool) : Flags :=
  match flag with
  | .negative => { f with negative := value }
  | .overflow => { f with overflow := value }
  | .brk => { f with brk := value }
  | .decimal => { f with decimal := value }
  | .interruptDisable => { f with interruptDisable := value }
  | .zero => { f with zero := value }
  | .carry => { f with carry := value }

lemma get_assign (f : Flags) (flag : StatusFlag) (value : Bool) :
    (f.assign flag value).get flag = value := by
  cases flag <;> rfl

lemma eq_of_get {f g : Flags} (h : ∀ flag, f.get flag = g.get flag) : f = g := by
  obtain ⟨n, v, b, d, i, z, c⟩ := f
  obtain ⟨n', v', b', d', i', z', c'⟩ := g
  obtain rfl : n = n' := h .negative
  obtain rfl : v = v' := h .overflow
  obtain rfl : b = b' := h .brk
  obtain rfl : d = d' := h .decimal
  obtain rfl : i = i' := h .interruptDisable
  obtain rfl : z = z' := h .zero
  obtain rfl : c = c' := h .carry
  rfl

/-- All flags but the affected ones are the same. -/
def SameBut (affected : List StatusFlag) (f after : Flags) : Prop :=
  ∀ flag ∉ affected, after.get flag = f.get flag

variable (f : Flags) (a value : UInt8)

lemma sameBut_self (affected : List StatusFlag) : f.SameBut affected f :=
  fun _ _ => rfl

lemma sameBut_assign (flag : StatusFlag) (set : Bool) : f.SameBut [flag] (f.assign flag set) := by
  intro other h
  cases flag <;> cases other <;> first | rfl | simp at h

lemma sameBut_withResult : f.SameBut [.negative, .zero] (f.withResult value) := by
  intro flag other
  cases flag with
  | negative | zero => simp at other
  | _ => rfl

/-- Zero and Negative by a result, and a Carry beside it: shifts and comparisons. -/
lemma sameBut_withResult_carry (carry : Bool) :
    f.SameBut [.negative, .zero, .carry] { f.withResult value with carry } := by
  intro flag other
  cases flag with
  | negative | zero | carry => simp at other
  | _ => rfl

lemma sameBut_testBits : f.SameBut [.negative, .overflow, .zero] (f.testBits a value) := by
  intro flag other
  cases flag with
  | negative | overflow | zero => simp at other
  | _ => rfl

lemma sameBut_add : f.SameBut [.negative, .overflow, .zero, .carry] (f.add a value).2 := by
  intro flag other
  rw [add]
  cases flag with
  | negative | overflow | zero | carry => simp at other
  | _ => split <;> rfl

lemma sameBut_subtract :
    f.SameBut [.negative, .overflow, .zero, .carry] (f.subtract a value).2 := by
  intro flag other
  rw [subtract]
  cases flag with
  | negative | overflow | zero | carry => simp at other
  | _ => split <;> rfl

/-- A pull of the status affects all flags. -/
lemma sameBut_pulled {mnemonic : Mnemonic} (h : mnemonic.PullsFlags) (after : Flags) :
    f.SameBut mnemonic.affected after := by
  intro flag other
  rcases h with rfl | rfl <;> cases flag <;> simp [Mnemonic.affected] at other

/-- The status byte has bit 5 set always, and bit 4 exactly with Break. -/
lemma toByte_and_eq_iff : f.toByte &&& 0x30 = 0x20 ↔ f.brk = false := by
  obtain ⟨n, v, b, d, i, z, c⟩ := f
  revert n v b d i z c
  decide

end Flags

/-! ## Registers and flags -/

namespace Processor

open BusProgram

variable (p : Processor) {o : Operand} {mnemonic : Mnemonic} {mode : Mode}

/-- What an instruction that goes on leaves of the registers and flags that it found. -/
structure Leaves (mnemonic : Mnemonic) (mode : Mode) (after : Processor) : Prop where
  /-- `A`, `X` and `Y` change as the destination only. -/
  registers : ∀ r, r ≠ .stackPointer → mnemonic.destination? mode ≠ some r → after.get r = p.get r
  /-- The stack pointer moves by what is pushed and pulled. -/
  stackPointer : mnemonic.destination? mode ≠ some .stackPointer →
    after.sp = p.sp - UInt8.ofNat mnemonic.pushes + UInt8.ofNat mnemonic.pulls
  /-- The flags that are not affected stay. -/
  flags : p.flags.SameBut mnemonic.affected after.flags

variable {p}

/-- Without the stack, the pointer is a register like the others. -/
lemma Leaves.of_sparesStack {after : Processor} (spares : mnemonic.sparesStack = true)
    (registers : ∀ r, mnemonic.destination? mode ≠ some r → after.get r = p.get r)
    (flags : p.flags.SameBut mnemonic.affected after.flags) : p.Leaves mnemonic mode after where
  registers r _ other := registers r other
  stackPointer other := by
    have same : after.sp = p.sp := registers .stackPointer other
    obtain ⟨pushes, pulls⟩ : mnemonic.pushes = 0 ∧ mnemonic.pulls = 0 := by
      simpa [Mnemonic.sparesStack] using spares
    rw [same, pushes, pulls]
    simp
  flags := flags

/-- With the stack, the other registers stay. -/
lemma Leaves.of_stack {after : Processor} (a : after.a = p.a) (x : after.x = p.x)
    (y : after.y = p.y)
    (sp : after.sp = p.sp - UInt8.ofNat mnemonic.pushes + UInt8.ofNat mnemonic.pulls)
    (flags : p.flags.SameBut mnemonic.affected after.flags) : p.Leaves mnemonic mode after where
  registers r other _ := by
    cases r with
    | accumulator => exact a
    | indexX => exact x
    | indexY => exact y
    | stackPointer => exact absurd rfl other
  stackPointer _ := sp
  flags := flags

variable (p)

lemma get_set_of_ne {r other : Register} (h : other ≠ r) (value : UInt8) :
    (p.set r value).get other = p.get other := by
  cases r <;> cases other <;> first | rfl | exact absurd rfl h

lemma flags_set (r : Register) (value : UInt8) : (p.set r value).flags = p.flags := by
  cases r <;> rfl

/-- A result goes into its register, and into flags. -/
lemma set_leaves (r : Register) (spares : mnemonic.sparesStack = true)
    (destination : mnemonic.destination? mode = some r) (value : UInt8) {flags : Flags}
    (same : p.flags.SameBut mnemonic.affected flags) :
    p.Leaves mnemonic mode { p.set r value with flags } := by
  refine .of_sparesStack spares (fun other h => ?_) same
  rw [destination] at h
  have apart : other ≠ r := by
    rintro rfl
    exact h rfl
  exact p.get_set_of_ne apart value

/-- A result goes into flags only. -/
lemma flags_leaves (spares : mnemonic.sparesStack = true) {flags : Flags}
    (same : p.flags.SameBut mnemonic.affected flags) : p.Leaves mnemonic mode { p with flags } :=
  .of_sparesStack spares (fun _ _ => rfl) same

/-- Loads, transfers and logic. -/
lemma loadRegister_leaves {r : Register} (spares : mnemonic.sparesStack = true)
    (destination : mnemonic.destination? mode = some r)
    (affected : mnemonic.affected = [.negative, .zero]) (value : UInt8) :
    p.Leaves mnemonic mode (p.loadRegister r value) := by
  have same : p.flags.SameBut mnemonic.affected (p.flags.withResult value) := by
    rw [affected]
    exact p.flags.sameBut_withResult value
  rw [loadRegister, noteResult, flags_set]
  exact p.set_leaves r spares destination value same

lemma consume_leaves {update : UInt8 → Processor}
    (leaves : ∀ value, p.Leaves mnemonic mode (update value)) :
    (p.consume o update).Always fun step =>
      step.result = .ok .continued → p.Leaves mnemonic mode step.cpu :=
  (always_true (o.load p)).bind fun value _ _ => leaves value

/-- Shifts and counts, in place. -/
lemma modify_leaves {update : UInt8 → ByteResult} (spares : mnemonic.sparesStack = true)
    (destination : ∀ r, o = .register r → mnemonic.destination? mode = some r)
    (same : ∀ value, p.flags.SameBut mnemonic.affected (update value).2) :
    (p.modify o update).Always fun step =>
      step.result = .ok .continued → p.Leaves mnemonic mode step.cpu := by
  refine (always_true (o.load p)).bind fun value _ => ?_
  cases o with
  | register r => exact fun _ => p.set_leaves r spares (destination r rfl) _ (same value)
  | immediate byte => exact nofun
  | memory address => exact fun _ => p.flags_leaves spares (same value)

/-- Stores. -/
lemma storeRegister_leaves (r : Register) (spares : mnemonic.sparesStack = true)
    (destination : ∀ r, o = .register r → mnemonic.destination? mode = some r) :
    (p.storeRegister r o).Always fun step =>
      step.result = .ok .continued → p.Leaves mnemonic mode step.cpu := by
  have kept := p.flags.sameBut_self mnemonic.affected
  cases o with
  | register target =>
    intro _
    have leaves := p.set_leaves target spares (destination target rfl) (p.get r) kept
    rw [← p.flags_set target (p.get r)] at leaves
    exact leaves
  | immediate byte => exact nofun
  | memory address => exact fun _ => p.flags_leaves spares kept

/-- Branches change the program counter and the cycle count. -/
lemma branch_leaves (taken : Bool) (spares : mnemonic.sparesStack = true) :
    p.Leaves mnemonic mode (p.branch taken o) := by
  refine .of_sparesStack spares (fun r _ => ?_) ?_
  · cases taken <;> cases o <;> rfl
  · have kept : (p.branch taken o).flags = p.flags := by
      cases taken <;> cases o <;> rfl
    rw [kept]
    exact p.flags.sameBut_self _

lemma jump_leaves (spares : mnemonic.sparesStack = true) :
    p.Leaves mnemonic mode (p.jump o) := by
  cases o with
  | memory address => exact .of_sparesStack spares (fun _ _ => rfl) (p.flags.sameBut_self _)
  | _ => exact p.flags_leaves spares (p.flags.sameBut_self _)

/-- Setting or clearing one flag. -/
lemma execute_assigns {flag : StatusFlag} {value : Bool}
    (h : mnemonic.assigns? = some (flag, value)) :
    (p.execute mnemonic o).Always fun step => step.cpu.flags = p.flags.assign flag value := by
  match mnemonic with
  | .brk =>
    cases h
    exact fun _ _ => rfl
  | .clc | .sec | .cli | .sei | .cld | .sed | .clv =>
    cases h
    rfl

/-- The instructions that work the stack move the pointer byte by byte. -/
lemma stack_leaves (works : mnemonic.sparesStack = false) :
    (p.execute mnemonic o).Always fun step =>
      step.result = .ok .continued → p.Leaves mnemonic mode step.cpu := by
  have kept (affected : List StatusFlag) := p.flags.sameBut_self affected
  match mnemonic with
  | .pha | .php =>
    have pointer : p.sp - 1 = p.sp - UInt8.ofNat 1 + UInt8.ofNat 0 := by grind
    exact fun _ => .of_stack rfl rfl rfl pointer (kept _)
  | .jsr =>
    have pointer : p.sp - 1 - 1 = p.sp - UInt8.ofNat 2 + UInt8.ofNat 0 := by grind
    cases o <;> exact fun _ => .of_stack rfl rfl rfl pointer (kept _)
  | .brk =>
    have pointer : p.sp - 1 - 1 - 1 = p.sp - UInt8.ofNat 3 + UInt8.ofNat 0 := by grind
    exact fun _ _ _ => .of_stack rfl rfl rfl pointer (p.flags.sameBut_assign .interruptDisable true)
  | .pla =>
    have pointer : p.sp + 1 = p.sp - UInt8.ofNat 0 + UInt8.ofNat 1 := by grind
    refine fun value _ => ⟨fun r other h => ?_, fun _ => pointer, p.flags.sameBut_withResult value⟩
    cases r with
    | accumulator => exact absurd rfl h
    | indexX | indexY => rfl
    | stackPointer => exact absurd rfl other
  | .plp =>
    have pointer : p.sp + 1 = p.sp - UInt8.ofNat 0 + UInt8.ofNat 1 := by grind
    exact fun _ _ => .of_stack rfl rfl rfl pointer (p.flags.sameBut_pulled (.inl rfl) _)
  | .rts =>
    have pointer : p.sp + 1 + 1 = p.sp - UInt8.ofNat 0 + UInt8.ofNat 2 := by grind
    rw [execute, returnFromSubroutine]
    split
    · intro finished
      cases finished
    · exact fun _ _ _ => .of_stack rfl rfl rfl pointer (kept _)
  | .rti =>
    have pointer : p.sp + 1 + 1 + 1 = p.sp - UInt8.ofNat 0 + UInt8.ofNat 3 := by grind
    rw [execute, returnFromInterrupt]
    split
    · intro finished
      cases finished
    · exact fun _ _ _ _ => .of_stack rfl rfl rfl pointer (p.flags.sameBut_pulled (.inr rfl) _)

/-- An instruction that goes on changes what the manual says.  What becomes of a register operand
is left to the opcode matrix. -/
lemma execute_leaves (inPlace : mnemonic.writesBack = true →
      ∀ r, o = .register r → mnemonic.destination? mode = some r) :
    (p.execute mnemonic o).Always fun step =>
      step.result = .ok .continued → p.Leaves mnemonic mode step.cpu := by
  match mnemonic with
  | .adc =>
    have leaves (value : UInt8) : p.Leaves .adc mode (p.accumulate (p.flags.add p.a value)) :=
      p.set_leaves .accumulator rfl rfl _ (p.flags.sameBut_add p.a value)
    exact p.consume_leaves leaves
  | .sbc =>
    have leaves (value : UInt8) : p.Leaves .sbc mode (p.accumulate (p.flags.subtract p.a value)) :=
      p.set_leaves .accumulator rfl rfl _ (p.flags.sameBut_subtract p.a value)
    exact p.consume_leaves leaves
  | .and | .ora | .eor | .lda | .ldx | .ldy =>
    exact p.consume_leaves fun _ => p.loadRegister_leaves rfl rfl rfl _
  | .cmp | .cpx | .cpy =>
    exact p.consume_leaves fun _ => p.flags_leaves rfl (p.flags.sameBut_withResult_carry _ _)
  | .bit =>
    exact p.consume_leaves fun value => p.flags_leaves rfl (p.flags.sameBut_testBits p.a value)
  | .sta | .stx | .sty => exact p.storeRegister_leaves _ rfl (inPlace rfl)
  | .asl | .lsr | .rol | .ror =>
    rw [execute]
    exact p.modify_leaves rfl (inPlace rfl) fun _ => p.flags.sameBut_withResult_carry _ _
  | .inc | .dec =>
    rw [execute]
    exact p.modify_leaves rfl (inPlace rfl) fun _ => p.flags.sameBut_withResult _
  | .inx | .iny | .dex | .dey =>
    rw [execute]
    refine p.modify_leaves rfl ?_ fun _ => p.flags.sameBut_withResult _
    rintro r ⟨⟩
    rfl
  | .bcc | .bcs | .bne | .beq | .bpl | .bmi | .bvc | .bvs => exact fun _ => p.branch_leaves _ rfl
  | .jmp => exact fun _ => p.jump_leaves rfl
  | .tax | .tay | .tsx | .txa | .tya => exact fun _ => p.loadRegister_leaves rfl rfl rfl _
  | .txs =>
    have leaves : p.Leaves .txs mode (p.set .stackPointer p.x) :=
      p.set_leaves .stackPointer rfl rfl p.x (p.flags.sameBut_self _)
    exact fun _ => leaves
  | .clc => exact fun _ => p.flags_leaves rfl (p.flags.sameBut_assign .carry false)
  | .sec => exact fun _ => p.flags_leaves rfl (p.flags.sameBut_assign .carry true)
  | .cli => exact fun _ => p.flags_leaves rfl (p.flags.sameBut_assign .interruptDisable false)
  | .sei => exact fun _ => p.flags_leaves rfl (p.flags.sameBut_assign .interruptDisable true)
  | .cld => exact fun _ => p.flags_leaves rfl (p.flags.sameBut_assign .decimal false)
  | .sed => exact fun _ => p.flags_leaves rfl (p.flags.sameBut_assign .decimal true)
  | .clv => exact fun _ => p.flags_leaves rfl (p.flags.sameBut_assign .overflow false)
  | .nop | .jam | .undocumented => exact fun _ => p.flags_leaves rfl (p.flags.sameBut_self _)
  | .pha | .php | .pla | .plp | .jsr | .rts | .rti | .brk => exact p.stack_leaves rfl

/-- A pull of the status gives the flags of the byte above the stack pointer. -/
lemma flags_run_pull {M : Type} [Bus M] (memory : M) (pulls : mnemonic.PullsFlags)
    (goesOn : ((p.execute mnemonic o).run memory).1.result = .ok .continued) :
    ((p.execute mnemonic o).run memory).1.cpu.flags =
      .ofPulled (Bus.stackByte memory (p.sp + 1)) := by
  rcases pulls with rfl | rfl
  · rfl
  · rw [execute, returnFromInterrupt] at goesOn ⊢
    split at goesOn
    next => cases goesOn
    next silent =>
      rw [if_neg silent]
      rfl

/-! ## Bytes -/

variable {M : Type} [Bus M] (memory : M)

/-- The cells that a number of pushes write to, from a stack pointer downward. -/
def cellsBelow : ℕ → UInt8 → List UInt16
  | 0, _ => []
  | count + 1, sp => stackCell sp :: cellsBelow count (sp - 1)

lemma writes_consume (update : UInt8 → Processor) : (p.consume o update).writes memory = [] := by
  cases o <;> rfl

lemma writes_modify (update : UInt8 → ByteResult) :
    (p.modify o update).writes memory = o.address?.toList := by
  cases o <;> rfl

lemma writes_storeRegister (r : Register) :
    (p.storeRegister r o).writes memory = o.address?.toList := by
  cases o <;> rfl

/-- An instruction writes to its operand or to the stack, or not at all. -/
lemma writes_execute : (p.execute mnemonic o).writes memory =
    (if mnemonic.writesBack then o.address?.toList else []) ++
      cellsBelow mnemonic.pushes p.sp := by
  match mnemonic with
  | .adc | .sbc | .and | .ora | .eor | .cmp | .cpx | .cpy | .bit | .lda | .ldx | .ldy =>
    exact p.writes_consume memory _
  | .sta | .stx | .sty =>
    exact (p.writes_storeRegister memory _).trans (List.append_nil _).symm
  | .asl | .lsr | .rol | .ror | .inc | .dec =>
    rw [execute]
    exact (p.writes_modify memory _).trans (List.append_nil _).symm
  | .inx | .iny | .dex | .dey => rfl
  | .bcc | .bcs | .bne | .beq | .bpl | .bmi | .bvc | .bvs | .jmp => rfl
  | .rts =>
    rw [execute, returnFromSubroutine]
    split <;> rfl
  | .rti =>
    rw [execute, returnFromInterrupt]
    split <;> rfl
  | .pha | .php | .jsr | .brk => rfl
  | .pla | .plp => rfl
  | .clc | .sec | .cli | .sei | .cld | .sed | .clv => rfl
  | .tax | .tay | .tsx | .txa | .tya | .txs => rfl
  | .nop | .jam | .undocumented => rfl

end Processor

/-! ## The operand in a register -/

/-- Only the modes without an operand byte give a register, and it is the accumulator. -/
lemma Processor.locate_register (p : Processor) (mode : Mode) :
    (p.locate mode).Always fun located => ∀ r, located.operand = .register r →
      (mode = .implicit ∨ mode = .accumulator) ∧ r = .accumulator := by
  cases mode with
  | implicit =>
    rintro r ⟨⟩
    exact ⟨.inl rfl, rfl⟩
  | accumulator =>
    rintro r ⟨⟩
    exact ⟨.inr rfl, rfl⟩
  | immediate | zeroPage | zeroPageX | zeroPageY | relative => exact fun _ => nofun
  | absolute | absoluteX | absoluteY => exact fun _ _ => nofun
  | indirectX | indirectY => exact fun _ _ _ => nofun
  | indirect => exact fun _ _ _ _ => nofun

/-- What writes its operand back without an address works in the accumulator. -/
lemma Opcode.decode_inPlace {code : UInt8} (writes : (decode code).mnemonic.writesBack = true)
    (mode : (decode code).mode = .implicit ∨ (decode code).mode = .accumulator) :
    (decode code).mnemonic.destination? (decode code).mode = some .accumulator := by
  have rows : ∀ op ∈ matrix.toList, op.mnemonic.writesBack = true →
      op.mode = .implicit ∨ op.mode = .accumulator →
      op.mnemonic.destination? op.mode = some .accumulator := by
    decide +kernel
  exact rows _ (decode_mem code) writes mode

namespace Machine

section AnyBus

variable {M : Type} [Bus M] {machine : Machine M}

lemma located_inPlace (writes : machine.next.writesBack = true) (r : Register)
    (register : machine.located.1.operand = .register r) :
    machine.next.destination? machine.fetched.mode = some r := by
  have located := (Processor.locate_register { machine.cpu with fetchedAt := machine.cpu.pc }
    machine.fetched.mode).run (Bus.read machine.bus machine.cpu.pc).2
  obtain ⟨mode, rfl⟩ := located r register
  exact Opcode.decode_inPlace writes mode

/-- Moving behind the instruction and paying for it changes no register. -/
lemma get_ready (crossedPage : Bool) (r : Register) :
    (machine.ready crossedPage).get r = machine.cpu.get r := by
  cases r <;> rfl

/-- A step that goes on leaves the registers and flags that its instruction leaves. -/
lemma step_leaves (goesOn : machine.step.1 = .ok .continued) :
    machine.cpu.Leaves machine.next machine.fetched.mode machine.step.2.cpu := by
  have stepped := step_eq_execute (isExecutable_of_ok goesOn)
  rw [stepped] at goesOn ⊢
  obtain ⟨registers, stackPointer, flags⟩ :=
    (Processor.execute_leaves _ located_inPlace).run machine.located.2 goesOn
  refine ⟨fun r other h => ?_, stackPointer, flags⟩
  rw [← machine.get_ready machine.located.1.crossedPage]
  exact registers r other h

lemma step_assigns (goesOn : machine.step.1 = .ok .continued) {flag : StatusFlag} {value : Bool}
    (h : machine.next.assigns? = some (flag, value)) :
    machine.step.2.cpu.flags.get flag = value := by
  rw [step_eq_execute (isExecutable_of_ok goesOn)]
  have assigned := (Processor.execute_assigns (machine.ready machine.located.1.crossedPage)
    (o := machine.located.1.operand) h).run machine.located.2
  exact (congrArg (Flags.get · flag) assigned).trans (Flags.get_assign _ _ _)

lemma step_pullsFlags (goesOn : machine.step.1 = .ok .continued) (h : machine.next.PullsFlags) :
    machine.step.2.cpu.flags =
      .ofPulled (Bus.stackByte machine.located.2 (machine.cpu.sp + 1)) := by
  have stepped := step_eq_execute (isExecutable_of_ok goesOn)
  rw [stepped] at goesOn ⊢
  exact Processor.flags_run_pull _ machine.located.2 h goesOn

/-! ## Break -/

/-- No step sets Break. -/
lemma step_brk (clear : machine.cpu.flags.brk = false) : machine.step.2.cpu.flags.brk = false := by
  rcases machine.step_cases with ⟨fault, refused⟩ | ⟨kind, empty⟩ | ⟨-, goesOn⟩
  · rw [(step_refused refused).1]
    exact clear
  · rw [(step_returnFromEmpty empty).1]
    exact clear
  · by_cases pulls : machine.next.PullsFlags
    · rw [step_pullsFlags goesOn pulls]
      rfl
    · have other : .brk ∉ machine.next.affected := mt machine.next.brk_mem_affected_iff.mp pulls
      exact ((step_leaves goesOn).flags .brk other).trans clear

lemma after_brk (clear : machine.cpu.flags.brk = false) (n : ℕ) :
    (machine.after n).cpu.flags.brk = false := by
  induction n with
  | zero => exact clear
  | succ n ih =>
    rw [after_succ]
    exact step_brk ih

/-- A processor as power-on leaves it, or as the entry of a routine does. -/
inductive Entered : Machine M → Prop
  | powerOn (bus : M) : Entered (.powerOn bus)
  | reset (cpu : Processor) (bus : M) (entry : UInt16) (a x y status : UInt8) :
    Entered ⟨cpu.reset entry a x y status, bus⟩

lemma Entered.brk (h : machine.Entered) : machine.cpu.flags.brk = false := by
  cases h <;> rfl

/-- The status byte of a run has bit 5 set and bit 4 clear at all times. -/
lemma Entered.status_after (h : machine.Entered) (n : ℕ) :
    (machine.after n).cpu.status &&& 0x30 = 0x20 :=
  (Flags.toByte_and_eq_iff _).mpr (after_brk h.brk n)

end AnyBus

/-! ## On plain memory -/

variable (machine : Machine Ram)

/-- The addresses that the next instruction may write: its effective address, if it stores there,
and the cells of page one that it pushes to. -/
def WritesTo (address : UInt16) : Prop :=
  (machine.next.writesBack = true ∧
      machine.surroundings.address? machine.fetched.mode = some address.toNat) ∨
    address ∈ Processor.cellsBelow machine.next.pushes machine.cpu.sp

/-- A step that goes on changes what the manual says its instruction does, and nothing else. -/
structure ChangesAsDocumented : Prop where
  /-- Bytes of memory change at the address that is stored to, or where a push puts them. -/
  memory : ∀ address, ¬ machine.WritesTo address →
    machine.step.2.bus.peek address = machine.bus.peek address
  /-- Registers change as the destination, or by what is pushed and pulled; flags by the manual. -/
  leaves : machine.cpu.Leaves machine.next machine.fetched.mode machine.step.2.cpu
  /-- `CLC` and its kind, and `BRK`, give their flag its value. -/
  assigned : ∀ flag value, machine.next.assigns? = some (flag, value) →
    machine.step.2.cpu.flags.get flag = value
  /-- A pull of the status sets all flags but Break, which it clears. -/
  pulled : machine.next.PullsFlags → machine.step.2.cpu.flags =
    .ofPulled (machine.bus.peek (stackCell (machine.cpu.sp + 1)))
  /-- A pushed status has bits 4 and 5 set, and the flags in the others. -/
  pushed : machine.next = .php ∨ machine.next = .brk →
    machine.step.2.bus.peek (stackCell (machine.step.2.cpu.sp + 1)) = machine.cpu.status ||| 0x30

variable {machine}

lemma located_names :
    machine.surroundings.Names machine.fetched.mode machine.located.1.operand :=
  (Processor.locate_names _ _ _).1

lemma plainCell_ram (cell : UInt16) : Bus.PlainCell Ram cell where
  read _ _ := rfl
  write ram address value elsewhere := by
    have poked := (ram.markWritten address).peek_poke address cell value
    exact poked.trans (if_neg elsewhere)

/-- Memory changes where the next instruction may write. -/
lemma peek_step (executable : machine.next.isExecutable = true) {address : UInt16}
    (spared : ¬ machine.WritesTo address) :
    machine.step.2.bus.peek address = machine.bus.peek address := by
  apply machine.cpu.step.byte_run (plainCell_ram address)
  intro written
  rw [writes_step executable, execution, Processor.writes_execute, List.mem_append] at written
  apply spared
  rcases written with stored | pushed
  · split at stored
    next writes =>
      have names := machine.located_names
      cases operand : machine.located.1.operand with
      | memory target =>
        rw [operand] at stored names
        obtain rfl : address = target := by simpa [Operand.address?] using stored
        exact .inl ⟨writes, names⟩
      | _ =>
        rw [operand] at stored
        cases stored
    next => cases stored
  · exact .inr pushed

/-- Where the status is the last byte pushed, it lies above the stack pointer afterwards. -/
lemma pushed_status (use : StackUse) (next : machine.next = use.push) {rest : List UInt8}
    (last : use.bytes machine.cpu = machine.cpu.flags.toPushed :: rest) :
    machine.step.2.bus.peek (stackCell (machine.step.2.cpu.sp + 1)) =
      machine.cpu.status ||| 0x30 := by
  have empty : Bus.Stacked machine.bus machine.cpu.sp [] := trivial
  have room : use.size + ([] : List UInt8).length ≤ 256 := by
    cases use <;> decide
  have pushed := (push_stacked Ram.plainStack next empty room).1
  rw [last] at pushed
  exact pushed.1

/-- **Each instruction changes only what it is documented to change.**  This holds of every step
that goes on, from every state on plain memory.  So a run from power-on, or from the entry of a
routine, never sees Break set. -/
theorem step_changesAsDocumented (machine : Machine Ram) :
    (machine.step.1 = .ok .continued → machine.ChangesAsDocumented) ∧
      (machine.Entered → ∀ n, (machine.after n).cpu.status &&& 0x30 = 0x20) := by
  refine ⟨fun goesOn => ?_, fun entered n => entered.status_after n⟩
  refine ⟨fun address spared => ?_, step_leaves goesOn, fun flag value => ?_, fun pulls => ?_, ?_⟩
  · exact peek_step (isExecutable_of_ok goesOn) spared
  · exact step_assigns goesOn
  · rw [step_pullsFlags goesOn pulls, stackByte_located Ram.plainStack]
    rfl
  · rintro (php | brk)
    · exact pushed_status .status php rfl
    · exact pushed_status .interrupt brk rfl

/-- A routine entered with all flags clear, whose one instruction is `BRK`. -/
def interrupted : Machine Ram where
  cpu := (Processor.powerOn 0).reset 0x0200 0x2A 0 0 0x00
  bus := Ram.empty.load 0x0200 [0x00]

namespace interrupted

/-- The theorem there: three cells of page one change, the lowest of them to the status with Break,
while the processor itself sees interrupts held off and no more. -/
theorem step_pushes : interrupted.step.1 = .ok .continued ∧ interrupted.Entered ∧
    (∀ address, address ∉ [0x01FF, 0x01FE, 0x01FD] →
      interrupted.step.2.bus.peek address = interrupted.bus.peek address) ∧
    interrupted.step.2.bus.peek 0x01FD = 0x30 ∧ interrupted.step.2.cpu.a = 0x2A ∧
    (∀ flag, flag ≠ .interruptDisable → interrupted.step.2.cpu.flags.get flag = false) ∧
    ∀ n, (interrupted.after n).cpu.status &&& 0x30 = 0x20 := by
  have goesOn : interrupted.step.1 = .ok .continued := by decide +kernel
  have next : interrupted.next = .brk := by decide +kernel
  have entered : interrupted.Entered := .reset _ _ _ _ _ _ _
  obtain ⟨documented, status⟩ := step_changesAsDocumented interrupted
  obtain ⟨memory, ⟨registers, stackPointer, flags⟩, -, -, pushed⟩ := documented goesOn
  rw [next] at registers stackPointer flags
  refine ⟨goesOn, entered, fun address other => memory address ?_, ?_, ?_, ?_, status entered⟩
  · rintro (⟨stores, -⟩ | below)
    · rw [next] at stores
      cases stores
    · rw [next] at below
      exact other below
  · have pointer : interrupted.step.2.cpu.sp = 0xFC :=
      stackPointer (by simp [Mnemonic.destination?])
    have byte := pushed (.inr next)
    rw [pointer] at byte
    exact byte
  · exact registers .accumulator (by simp) (by simp [Mnemonic.destination?])
  · intro flag other
    rw [flags flag (by simpa [Mnemonic.affected] using other)]
    cases flag <;> rfl

end interrupted

end Machine

end SidScore
