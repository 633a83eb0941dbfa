import SidScore.Processor.Machine
import SidScore.Proofs.Memory.Cells
import SidScore.Proofs.Processor.Addressing
import SidScore.Proofs.Processor.Execution

/-!
# One step by the rules

Where an instruction finds its operand, where it leaves the program counter and what it costs, for
every opcode that can run and every state of processor and memory.  The operand is that of
`Surroundings.address?`; an instruction that neither branches nor transfers goes behind itself,
counted around the 65536 addresses; and the cost is that of the opcode matrix, with one cycle for
indexing into another page where the matrix says so, and one or two for a taken branch.

The matrix is asked for three facts, `Opcode.Consistent`: branches are relative, jumps name an
address, and what writes its operand has one that can be written.
-/

namespace SidScore

/-! ## The rows of the matrix -/

/-- Mnemonic and mode fit together. -/
structure Opcode.Consistent (op : Opcode) : Prop where
  branches : op.mnemonic.condition?.isSome = true → op.mode = .relative
  jumps : op.mnemonic = .jmp → op.mode = .absolute ∨ op.mode = .indirect
  calls : op.mnemonic = .jsr → op.mode = .absolute
  writes : op.mnemonic.writesBack = true → op.mode ≠ .immediate

lemma Opcode.decode_mem (code : UInt8) : decode code ∈ matrix.toList :=
  Vector.mem_toList_iff.mpr (Vector.getElem_mem code.toNat_lt)

lemma Opcode.decode_consistent (code : UInt8) : (decode code).Consistent := by
  have rows : ∀ op ∈ matrix.toList,
      (op.mnemonic.condition?.isSome = true → op.mode = .relative) ∧
        (op.mnemonic = .jmp → op.mode = .absolute ∨ op.mode = .indirect) ∧
        (op.mnemonic = .jsr → op.mode = .absolute) ∧
        (op.mnemonic.writesBack = true → op.mode ≠ .immediate) := by
    decide +kernel
  obtain ⟨branches, jumps, calls, writes⟩ := rows _ (decode_mem code)
  exact ⟨branches, jumps, calls, writes⟩

namespace BusProgram

/-- A program after another runs on the memory that the first leaves. -/
lemma run_bind {α β M : Type} [Bus M] (first : BusProgram α) (second : α → BusProgram β)
    (memory : M) :
    (first >>= second).run memory = (second (first.run memory).1).run (first.run memory).2 := by
  induction first generalizing memory with
  | done value => rfl
  | read address next ih => exact ih _ _
  | write address value next ih => exact ih _

end BusProgram

namespace Machine

variable (machine : Machine Ram)

/-- The row of the opcode at the program counter. -/
def opcode : Opcode :=
  .decode (machine.bus.peek machine.cpu.pc)

/-- What the instruction at the program counter finds around it. -/
def surroundings : Surroundings :=
  machine.cpu.surroundings machine.bus

/-- The branch at the program counter is taken. -/
def takesBranch : Bool :=
  machine.opcode.mnemonic.branches machine.cpu.flags

/-- The branch at the program counter leads to another page than that of the next instruction. -/
def branchLeavesPage : Bool :=
  (machine.surroundings.address? machine.opcode.mode).any fun target =>
    target / 256 != (machine.cpu.pc.toNat + 2) % 65536 / 256

/-- The cycles of the instruction at the program counter: those of its row, one for indexing into
another page if the row says so, one for a taken branch and one more if it leaves its page. -/
def cost : ℕ :=
  machine.opcode.cycles.toNat +
    (machine.opcode.pagePenalty && machine.surroundings.crosses machine.opcode.mode).toNat +
    machine.takesBranch.toNat + (machine.takesBranch && machine.branchLeavesPage).toNat

/-- The processor as the instruction at the program counter is carried out by: behind it, with the
cost of its row paid. -/
def advanced : Processor :=
  { machine.cpu with fetchedAt := machine.cpu.pc }.advance machine.opcode
    (machine.surroundings.crosses machine.opcode.mode)

/-- The step at hand goes by the rules. -/
structure StepsByRule : Prop where
  /-- The instruction is carried out on the operand that the rules name.  Finding the operand has
  changed no byte of memory. -/
  operand : ∃ (operand : Operand) (bus : Ram),
    machine.surroundings.Names machine.opcode.mode operand ∧
      bus.cells = machine.bus.cells ∧ bus.writeLog = machine.bus.writeLog ∧
      let ended := (machine.advanced.execute machine.opcode.mnemonic operand).run bus
      machine.step = (ended.1.result, ⟨ended.1.cpu, ended.2⟩)
  /-- The instruction comes to a result. -/
  result : ∃ outcome, machine.step.1 = .ok outcome
  /-- Straight on means behind the instruction. -/
  straight : machine.opcode.mnemonic.transfers = false → machine.takesBranch = false →
    machine.step.1 = .ok .continued ∧
      machine.step.2.cpu.pc.toNat =
        (machine.cpu.pc.toNat + machine.opcode.size.toNat) % 65536
  /-- Taken branches, jumps and calls go to the effective address. -/
  target : machine.takesBranch = true ∨ machine.opcode.mnemonic = .jmp ∨
      machine.opcode.mnemonic = .jsr →
    machine.step.1 = .ok .continued ∧
      machine.surroundings.address? machine.opcode.mode = some machine.step.2.cpu.pc.toNat
  /-- The cycle count, of 64 bits, grows by the cost. -/
  cycles : machine.step.2.cpu.cycles.toNat =
    (machine.cpu.cycles.toNat + machine.cost) % 2 ^ 64

end Machine

/-! ## The parts of a step -/

lemma Opcode.refusal?_eq_none {op : Opcode} (executable : op.isExecutable = true) (code : UInt8)
    (address : UInt16) : op.refusal? code address = none := by
  unfold refusal?
  split
  next jam => simp [isExecutable, jam, Mnemonic.isExecutable] at executable
  next undocumented => simp [isExecutable, undocumented, Mnemonic.isExecutable] at executable
  next => rfl

/-- An opcode that can run has its operand located, and is carried out on it. -/
lemma Processor.dispatch_eq (p : Processor) {code : UInt8}
    (executable : (Opcode.decode code).isExecutable = true) :
    p.dispatch code =
      { p with fetchedAt := p.pc }.locate (Opcode.decode code).mode >>= fun located =>
        ({ p with fetchedAt := p.pc }.advance (Opcode.decode code) located.crossedPage).execute
          (Opcode.decode code).mnemonic located.operand := by
  unfold dispatch
  simp only [Opcode.refusal?_eq_none executable]

namespace Machine

variable {machine : Machine Ram}

/-- A step of an opcode that can run: find the operand, and carry the instruction out. -/
lemma step_eq (executable : machine.opcode.isExecutable = true) :
    ∃ (operand : Operand) (bus : Ram),
      machine.surroundings.Names machine.opcode.mode operand ∧
        bus.cells = machine.bus.cells ∧ bus.writeLog = machine.bus.writeLog ∧
        let ended := (machine.advanced.execute machine.opcode.mnemonic operand).run bus
        machine.step = (ended.1.result, ⟨ended.1.cpu, ended.2⟩) := by
  obtain ⟨cpu, ram⟩ := machine
  set fetched : Processor := { cpu with fetchedAt := cpu.pc } with hfetched
  set read : Ram := ram.markRead cpu.pc
  set op : Opcode := .decode (ram.peek cpu.pc)
  -- Reading the opcode has changed the log, which locating does not look at.
  obtain ⟨names, crossed⟩ := fetched.locate_names read op.mode
  obtain ⟨cells, writeLog⟩ := fetched.locate_cells read op.mode
  refine ⟨_, _, names, cells, writeLog, ?_⟩
  have ran : cpu.step.run ram = (cpu.dispatch (ram.peek cpu.pc)).run read := rfl
  rw [Machine.step, ran, cpu.dispatch_eq executable, BusProgram.run_bind, ← hfetched, crossed]
  rfl

lemma toNat_advanced_pc :
    machine.advanced.pc.toNat = (machine.cpu.pc.toNat + machine.opcode.size.toNat) % 65536 := by
  rw [advanced, Processor.advance, UInt16.toNat_add, UInt8.toNat_toUInt16]

lemma toNat_advanced_cycles :
    machine.advanced.cycles.toNat = (machine.cpu.cycles.toNat + machine.opcode.cycles.toNat +
      (machine.opcode.pagePenalty && machine.surroundings.crosses machine.opcode.mode).toNat) %
        2 ^ 64 := by
  rw [advanced, Processor.advance, Bool.and_comm]
  cases machine.opcode.pagePenalty && machine.surroundings.crosses machine.opcode.mode
  · simp [UInt64.toNat_add]
  · simp [UInt64.toNat_add]

lemma opcode_consistent (machine : Machine Ram) : machine.opcode.Consistent :=
  Opcode.decode_consistent _

lemma takesBranch_mode (taken : machine.takesBranch = true) : machine.opcode.mode = .relative := by
  refine machine.opcode_consistent.branches ?_
  cases conditional : machine.opcode.mnemonic.condition? with
  | none => simp [takesBranch, Mnemonic.branches, conditional] at taken
  | some condition => rfl

lemma step_goesOn (executable : machine.opcode.isExecutable = true)
    (straight : machine.opcode.mnemonic.transfers = false) (untaken : machine.takesBranch = false) :
    machine.step.1 = .ok .continued ∧ machine.step.2.cpu.pc = machine.advanced.pc ∧
      machine.step.2.cpu.cycles = machine.advanced.cycles := by
  obtain ⟨operand, bus, names, -, -, step⟩ := step_eq executable
  have writable : machine.opcode.mnemonic.writesBack = true → operand.Writable := by
    intro writes
    cases operand with
    | immediate value => exact machine.opcode_consistent.writes writes names.1
    | register r => trivial
    | memory address => trivial
  obtain ⟨result, pc, cycles⟩ := (machine.advanced.execute_goesOn straight untaken writable).run bus
  rw [step]
  exact ⟨result, pc, cycles⟩

lemma step_taken (executable : machine.opcode.isExecutable = true)
    (taken : machine.takesBranch = true) :
    machine.step.1 = .ok .continued ∧
      machine.surroundings.address? machine.opcode.mode = some machine.step.2.cpu.pc.toNat ∧
      machine.step.2.cpu.cycles = machine.advanced.cycles +
        (if samePage machine.advanced.pc machine.step.2.cpu.pc then 1 else 2) := by
  obtain ⟨operand, bus, names, -, -, step⟩ := step_eq executable
  have relative := takesBranch_mode taken
  obtain ⟨target, rfl, address⟩ := names.memory (by rw [relative]; rfl)
  rw [step, machine.advanced.execute_taken taken target]
  exact ⟨rfl, address, rfl⟩

lemma step_transfer (executable : machine.opcode.isExecutable = true)
    (transfers : machine.opcode.mnemonic.transfers = true) :
    (∃ outcome, machine.step.1 = .ok outcome) ∧
      machine.step.2.cpu.cycles = machine.advanced.cycles := by
  obtain ⟨operand, bus, -, -, -, step⟩ := step_eq executable
  rw [step]
  exact (machine.advanced.execute_transfer transfers).run bus

lemma step_jump (executable : machine.opcode.isExecutable = true)
    (jumps : machine.opcode.mnemonic = .jmp ∨ machine.opcode.mnemonic = .jsr) :
    machine.step.1 = .ok .continued ∧
      machine.surroundings.address? machine.opcode.mode = some machine.step.2.cpu.pc.toNat := by
  obtain ⟨operand, bus, names, -, -, step⟩ := step_eq executable
  rcases jumps with jump | call
  · have addressed : (machine.surroundings.address? machine.opcode.mode).isSome = true := by
      rcases machine.opcode_consistent.jumps jump with absolute | indirect
      · rw [absolute]
        rfl
      · rw [indirect]
        rfl
    obtain ⟨target, rfl, address⟩ := names.memory addressed
    rw [step, jump]
    exact ⟨rfl, address⟩
  · have addressed : (machine.surroundings.address? machine.opcode.mode).isSome = true := by
      rw [machine.opcode_consistent.calls call]
      rfl
    obtain ⟨target, rfl, address⟩ := names.memory addressed
    rw [step, call]
    exact ⟨rfl, address⟩

lemma cost_untaken {op : Opcode} (h : machine.opcode = op) (untaken : machine.takesBranch = false) :
    machine.cost =
      op.cycles.toNat + (op.pagePenalty && machine.surroundings.crosses op.mode).toNat := by
  rw [cost, h, untaken]
  simp

/-- What a taken branch pays depends on the pages of its target and of the next instruction. -/
lemma samePage_advanced (taken : machine.takesBranch = true) {target : UInt16}
    (address : machine.surroundings.address? machine.opcode.mode = some target.toNat) :
    samePage machine.advanced.pc target = !machine.branchLeavesPage := by
  have behind : machine.advanced.pc.toNat = (machine.cpu.pc.toNat + 2) % 65536 := by
    rw [toNat_advanced_pc, Opcode.size, takesBranch_mode taken]
    rfl
  rw [branchLeavesPage, address, Option.any_some, Bool.eq_iff_iff, samePage_iff, behind]
  rw [Bool.not_eq_true', bne_eq_false_iff_eq]
  exact eq_comm

/-! ## The step as a whole -/

/-- **Every step goes by the rules**, whatever the state, if the opcode at the program counter can
run. -/
theorem step_byRule (machine : Machine Ram) (executable : machine.opcode.isExecutable = true) :
    machine.StepsByRule := by
  have operand := step_eq executable
  have target := step_jump executable
  have rowCost := machine.toNat_advanced_cycles
  cases taken : machine.takesBranch with
  | true =>
    obtain ⟨result, address, cycles⟩ := step_taken executable taken
    refine ⟨operand, ⟨_, result⟩, fun _ untaken => ?_, fun _ => ⟨result, address⟩, ?_⟩
    · rw [taken] at untaken
      cases untaken
    · rw [samePage_advanced taken address] at cycles
      rw [cycles, UInt64.toNat_add, rowCost, cost, taken]
      cases machine.branchLeavesPage <;> simp <;> omega
  | false =>
    have paid : machine.step.2.cpu.cycles = machine.advanced.cycles →
        machine.step.2.cpu.cycles.toNat =
          (machine.cpu.cycles.toNat + machine.cost) % 2 ^ 64 := by
      intro cycles
      rw [cycles, rowCost, cost_untaken rfl taken, Nat.add_assoc]
    cases transfers : machine.opcode.mnemonic.transfers with
    | true =>
      obtain ⟨result, cycles⟩ := step_transfer executable transfers
      refine ⟨operand, result, fun straight => ?_, fun goes => ?_, paid cycles⟩
      · rw [transfers] at straight
        cases straight
      · rw [taken] at goes
        exact target (goes.resolve_left Bool.false_ne_true)
    | false =>
      obtain ⟨result, pc, cycles⟩ := step_goesOn executable transfers taken
      refine ⟨operand, ⟨_, result⟩, fun _ _ => ⟨result, ?_⟩, fun goes => ?_, paid cycles⟩
      · rw [pc, toNat_advanced_pc]
      · rw [taken] at goes
        exact target (goes.resolve_left Bool.false_ne_true)

/-! ### At the top of memory -/

/-- `LDA $12FF,X` at `$FFFE`, so that its last byte lies at `$0000`, with `X` one. -/
def readAcrossTop : Machine Ram where
  cpu := { Processor.powerOn 0xFFFE with x := 1 }
  bus := ((Ram.empty.poke 0xFFFE 0xBD).poke 0xFFFF 0xFF).poke 0x0000 0x12

namespace readAcrossTop

lemma opcode_eq : readAcrossTop.opcode = .paged .lda .absoluteX 4 := by
  have fetched : readAcrossTop.bus.peek 0xFFFE = 0xBD := by simp [readAcrossTop]
  exact congrArg Opcode.decode fetched

lemma operandWord_eq : readAcrossTop.surroundings.operandWord = 0x12FF := by
  have low : readAcrossTop.bus.peek 0xFFFF = 0xFF := by simp [readAcrossTop]
  have high : readAcrossTop.bus.peek 0x0000 = 0x12 := by simp [readAcrossTop]
  have first : readAcrossTop.cpu.pc + 1 = 0xFFFF := rfl
  have second : (0xFFFF + 1 : UInt16) = 0x0000 := rfl
  refine (readAcrossTop.cpu.surroundings_operandWord readAcrossTop.bus).trans ?_
  rw [first, second, low, high]
  rfl

/-- The theorem there: the counter wraps, and leaving page `$12` costs a fifth cycle. -/
theorem step_wraps : readAcrossTop.opcode.isExecutable = true ∧
    readAcrossTop.step.2.cpu.pc.toNat = 1 ∧ readAcrossTop.step.2.cpu.cycles.toNat = 5 := by
  have executable : readAcrossTop.opcode.isExecutable = true := by
    rw [opcode_eq]
    rfl
  have rules := step_byRule readAcrossTop executable
  have untaken : readAcrossTop.takesBranch = false := by
    rw [takesBranch, opcode_eq]
    rfl
  have crosses : readAcrossTop.surroundings.crosses .absoluteX = true := by
    rw [Surroundings.crosses, Surroundings.indexing?, operandWord_eq]
    decide
  have cost_eq : readAcrossTop.cost = 5 := by
    have mode : (Opcode.paged .lda .absoluteX 4).mode = .absoluteX := rfl
    refine (cost_untaken opcode_eq untaken).trans ?_
    rw [mode, crosses]
    rfl
  have fresh : readAcrossTop.cpu.cycles.toNat = 0 := rfl
  refine ⟨executable, ?_, ?_⟩
  · refine (rules.straight (by rw [opcode_eq]; rfl) untaken).2.trans ?_
    rw [opcode_eq]
    rfl
  · refine rules.cycles.trans ?_
    rw [fresh, cost_eq]
    rfl

end readAcrossTop

end Machine

end SidScore
