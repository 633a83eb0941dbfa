import SidScore.Proofs.Memory.Cells
import SidScore.Proofs.Processor.Fetching
import SidScore.Proofs.Word

/-!
# The stack as a list

The stack pointer names the first free cell of page one, and the cells above it hold what was
pushed, the latest byte next to it.  Counted around the page there are 256 of them, so the stack
can be told as a list of at most 256 bytes, `Bus.Stacked`, with the latest byte first.  A push puts
a byte in front of the list and a pull takes it off, wherever in the page the pointer stands.

Which memory is on the bus does not matter, as long as page one is plain: a cell of it changes when
it is written, and at no other time (`Bus.PlainStack`).
-/

namespace SidScore

open Processor (stackCell)

/-! ## Page one -/

lemma toNat_stackCell (sp : UInt8) : (stackCell sp).toNat = 256 + sp.toNat := by
  have joined : stackCell sp = wordOf sp 1 := rfl
  have one : UInt8.toNat 1 = 1 := rfl
  rw [joined, toNat_wordOf, one]

@[simp] lemma stackCell_inj {sp other : UInt8} : stackCell sp = stackCell other ↔ sp = other := by
  rw [← UInt16.toNat_inj, toNat_stackCell, toNat_stackCell, ← UInt8.toNat_inj]
  omega

namespace Bus

variable {M : Type} [Bus M]

/-- The byte in the cell that a stack pointer names. -/
def stackByte (memory : M) (sp : UInt8) : UInt8 :=
  (Bus.read memory (stackCell sp)).1

/-- Page one is plain: its cells change when they are written, and at no other time. -/
structure PlainStack (M : Type) [Bus M] : Prop where
  read : ∀ (memory : M) (address : UInt16) (sp : UInt8),
    stackByte (Bus.read memory address).2 sp = stackByte memory sp
  write : ∀ (memory : M) (address : UInt16) (value : UInt8) (sp : UInt8),
    stackByte (Bus.write memory address value) sp =
      if address = stackCell sp then value else stackByte memory sp

lemma PlainStack.plainCell (plain : PlainStack M) (sp : UInt8) : PlainCell M (stackCell sp) where
  read memory address := plain.read memory address sp
  write memory address value elsewhere := by
    rw [← stackByte, plain.write, if_neg elsewhere]
    rfl

end Bus

lemma Ram.plainStack : Bus.PlainStack Ram where
  read _ _ _ := rfl
  write ram address value sp := (ram.markWritten address).peek_poke address (stackCell sp) value

namespace BankedMemory

variable (memory : BankedMemory)

/-- Neither the processor's registers nor anything that shows instead of memory lies in page one. -/
lemma stackCell_low (sp : UInt8) :
    stackCell sp ≠ 0 ∧ stackCell sp ≠ 1 ∧ stackCell sp < 0xA000 ∧ ¬ 0xD000 ≤ stackCell sp := by
  revert sp
  exact forall_byte (by decide +kernel)

lemma source_stackCell (sp : UInt8) : memory.source (stackCell sp) = .ram (stackCell sp) := by
  obtain ⟨zero, one, low, -⟩ := stackCell_low sp
  rw [source, if_neg zero, if_neg one, if_pos low]

lemma target_stackCell (sp : UInt8) : memory.target (stackCell sp) = .ram (stackCell sp) := by
  obtain ⟨zero, one, -, high⟩ := stackCell_low sp
  rw [target, if_neg zero, if_neg one, if_neg]
  simp [high]

lemma eq_of_target_eq_ram {address cell : UInt16} (h : memory.target address = .ram cell) :
    address = cell := by
  unfold target registerCell at h
  dsimp only at h
  split_ifs at h
  exact Cell.ram.inj h

lemma stackByte_eq (sp : UInt8) : Bus.stackByte memory sp = memory.content (.ram (stackCell sp)) :=
  congrArg memory.content (memory.source_stackCell sp)

lemma plainStack : Bus.PlainStack BankedMemory where
  read memory address sp := by
    rw [stackByte_eq, stackByte_eq]
    exact memory.content_markRead address _
  write memory address value sp := by
    obtain ⟨zero, one, -, -⟩ := stackCell_low sp
    rw [stackByte_eq, stackByte_eq]
    have reachable : (Cell.ram (stackCell sp)).Reachable := ⟨zero, one⟩
    refine (memory.content_store address value reachable).trans ?_
    by_cases same : address = stackCell sp
    · subst same
      rw [target_stackCell, if_pos ⟨rfl, rfl⟩, if_pos rfl]
    · rw [if_neg same, if_neg fun h => same (memory.eq_of_target_eq_ram h.1)]

end BankedMemory

/-! ## Lists of stacked bytes -/

namespace Bus

variable {M : Type} [Bus M]

/-- The cells above the stack pointer hold the bytes, the latest one first. -/
def Stacked (memory : M) : UInt8 → List UInt8 → Prop
  | _, [] => True
  | sp, byte :: bytes => stackByte memory (sp + 1) = byte ∧ Stacked memory (sp + 1) bytes

lemma Stacked.congr {memory other : M} {sp : UInt8} {bytes : List UInt8}
    (h : Stacked memory sp bytes)
    (same : ∀ k < bytes.length,
      stackByte other (sp + 1 + UInt8.ofNat k) = stackByte memory (sp + 1 + UInt8.ofNat k)) :
    Stacked other sp bytes := by
  induction bytes generalizing sp with
  | nil => trivial
  | cons byte bytes ih =>
    obtain ⟨top, rest⟩ := h
    refine ⟨?_, ih rest fun k hk => ?_⟩
    · have first := same 0 (Nat.zero_lt_succ _)
      have zero : UInt8.ofNat 0 = 0 := rfl
      rw [zero, UInt8.add_zero] at first
      rw [first, top]
    · have next := same (k + 1) (Nat.succ_lt_succ hk)
      rw [UInt8.ofNat_add, UInt8.add_comm (UInt8.ofNat k), ← UInt8.add_assoc] at next
      exact next

lemma Stacked.read (plain : PlainStack M) {memory : M} {sp : UInt8} {bytes : List UInt8}
    (h : Stacked memory sp bytes) (address : UInt16) :
    Stacked (Bus.read memory address).2 sp bytes :=
  h.congr fun _ _ => plain.read memory address _

/-- A push puts a byte in front, as long as there is a cell for it. -/
lemma Stacked.push (plain : PlainStack M) {memory : M} {sp : UInt8} {bytes : List UInt8}
    (h : Stacked memory sp bytes) (room : bytes.length < 256) (value : UInt8) :
    Stacked (Bus.write memory (stackCell sp) value) (sp - 1) (value :: bytes) := by
  rw [Stacked, UInt8.sub_add_cancel]
  refine ⟨?_, h.congr fun k hk => ?_⟩
  · rw [plain.write, if_pos rfl]
  · have above : sp ≠ sp + 1 + UInt8.ofNat k := by
      have bound := sp.toNat_lt
      have one : UInt8.toNat 1 = 1 := rfl
      rw [Ne, ← UInt8.toNat_inj, UInt8.toNat_add, UInt8.toNat_add, UInt8.toNat_ofNat', one]
      omega
    rw [plain.write, if_neg (mt stackCell_inj.mp above)]

/-- A word is pushed with its high byte first. -/
lemma Stacked.pushWord (plain : PlainStack M) {memory : M} {sp : UInt8} {bytes : List UInt8}
    (h : Stacked memory sp bytes) (room : 2 + bytes.length ≤ 256) (word : UInt16) :
    Stacked (Bus.write (Bus.write memory (stackCell sp) (highByte word)) (stackCell (sp - 1))
      (lowByte word)) (sp - 1 - 1) (lowByte word :: highByte word :: bytes) := by
  have high := h.push plain (by omega) (highByte word)
  exact high.push plain (by rw [List.length_cons]; omega) (lowByte word)

end Bus

/-! ## Programs that spare a cell -/

namespace BusProgram

variable {α M : Type} [Bus M]

/-- A program leaves the cells of page one that it does not write. -/
lemma stackByte_run (plain : Bus.PlainStack M) (program : BusProgram α) {memory : M} {sp : UInt8}
    (h : stackCell sp ∉ program.writes memory) :
    Bus.stackByte (program.run memory).2 sp = Bus.stackByte memory sp :=
  program.byte_run (plain.plainCell sp) h

end BusProgram

/-! ## A step, on any bus -/

namespace Machine

variable {M : Type} [Bus M] {machine : Machine M}

/-- Locating an operand leaves page one alone. -/
lemma stackByte_located (plain : Bus.PlainStack M) (sp : UInt8) :
    Bus.stackByte machine.located.2 sp = Bus.stackByte machine.bus sp := by
  rw [located, BusProgram.stackByte_run plain, plain.read]
  rw [Processor.writes_locate]
  exact List.not_mem_nil

/-- An instruction that can run is carried out on a memory with the same page one. -/
lemma step_fetched (plain : Bus.PlainStack M) (executable : machine.next.isExecutable = true) :
    ∃ (located : Located) (bus : M),
      (∀ sp, Bus.stackByte bus sp = Bus.stackByte machine.bus sp) ∧
        let ended :=
          ((machine.ready located.crossedPage).execute machine.next located.operand).run bus
        machine.step = (ended.1.result, ⟨ended.1.cpu, ended.2⟩) :=
  ⟨machine.located.1, machine.located.2, stackByte_located plain, step_eq_execute executable⟩

end Machine

/-! ## Pushes and their pulls -/

/-- A way to use the stack: an instruction that pushes, and the one that pulls what it pushed. -/
inductive StackUse where
  /-- `PHA` and `PLA`. -/
  | accumulator
  /-- `PHP` and `PLP`. -/
  | status
  /-- `JSR` and `RTS`. -/
  | subroutine
  /-- `BRK` and `RTI`. -/
  | interrupt
  deriving Repr, DecidableEq

namespace StackUse

def push : StackUse → Mnemonic
  | accumulator => .pha
  | status => .php
  | subroutine => .jsr
  | interrupt => .brk

def pull : StackUse → Mnemonic
  | accumulator => .pla
  | status => .plp
  | subroutine => .rts
  | interrupt => .rti

/-- The number of bytes pushed. -/
def size : StackUse → ℕ
  | accumulator | status => 1
  | subroutine => 2
  | interrupt => 3

/-- The bytes that a processor pushes, the last one first. -/
def bytes (p : Processor) : StackUse → List UInt8
  | accumulator => [p.a]
  | status => [p.flags.toPushed]
  | subroutine => [lowByte (p.pc + 2), highByte (p.pc + 2)]
  | interrupt => [p.flags.toPushed, lowByte (p.pc + 2), highByte (p.pc + 2)]

/-- What the pull gives back, if the processor was `before` when it came to the push and is `after`
behind the pull. -/
def Restored (before after : Processor) : StackUse → Prop
  | accumulator => after.a = before.a
  | status => after.flags = { before.flags with brk := false }
  | subroutine => after.pc = before.pc + 3
  | interrupt => after.flags = { before.flags with brk := false } ∧ after.pc = before.pc + 2

@[simp] lemma length_bytes (use : StackUse) (p : Processor) : (use.bytes p).length = use.size := by
  cases use <;> rfl

end StackUse

/-- A pulled status has the flags that were pushed, but for Break. -/
lemma Flags.ofPulled_toPushed (flags : Flags) :
    Flags.ofPulled flags.toPushed = { flags with brk := false } := by
  obtain ⟨n, v, b, d, i, z, c⟩ := flags
  revert n v b d i z c
  decide

/-- The rows of the instructions that push an address. -/
lemma Opcode.size_decode (code : UInt8) :
    ((decode code).mnemonic = .jsr → (decode code).size = 3) ∧
      ((decode code).mnemonic = .brk → (decode code).size = 1) := by
  have rows : ∀ op ∈ matrix.toList,
      (op.mnemonic = .jsr → op.size = 3) ∧ (op.mnemonic = .brk → op.size = 1) := by
    decide +kernel
  exact rows _ (decode_mem code)

namespace Machine

variable {M : Type} [Bus M] {machine : Machine M} {use : StackUse} {bytes : List UInt8}

lemma ready_pc (crossedPage : Bool) :
    (machine.ready crossedPage).pc = machine.cpu.pc + machine.fetched.size.toUInt16 :=
  rfl

/-- A call pushes the address of its own last byte. -/
lemma ready_pc_call (h : machine.next = .jsr) (crossedPage : Bool) :
    (machine.ready crossedPage).pc - 1 = machine.cpu.pc + 2 := by
  have size : machine.fetched.size = 3 := (Opcode.size_decode _).1 h
  have back : (3 : UInt8).toUInt16 + -1 = 2 := rfl
  rw [ready_pc, size, UInt16.sub_eq_add_neg, UInt16.add_assoc, back]

/-- An interrupt pushes the address behind its padding byte. -/
lemma ready_pc_interrupt (h : machine.next = .brk) (crossedPage : Bool) :
    (machine.ready crossedPage).pc + 1 = machine.cpu.pc + 2 := by
  have size : machine.fetched.size = 1 := (Opcode.size_decode _).2 h
  have further : (1 : UInt8).toUInt16 + 1 = 2 := rfl
  rw [ready_pc, size, UInt16.add_assoc, further]

/-- **A push** puts the bytes of its kind in front of what is stacked. -/
lemma push_stacked (plain : Bus.PlainStack M) (h : machine.next = use.push)
    (stacked : Bus.Stacked machine.bus machine.cpu.sp bytes)
    (room : use.size + bytes.length ≤ 256) :
    Bus.Stacked machine.step.2.bus machine.step.2.cpu.sp (use.bytes machine.cpu ++ bytes) ∧
      machine.step.2.cpu.sp + UInt8.ofNat use.size = machine.cpu.sp := by
  have executable : machine.next.isExecutable = true := by rw [h]; cases use <;> rfl
  obtain ⟨located, bus, same, step⟩ := step_fetched plain executable
  have before : Bus.Stacked bus machine.cpu.sp bytes := stacked.congr fun _ _ => same _
  rw [step, h]
  cases use with
  | accumulator =>
    simp only [StackUse.size] at room
    exact ⟨before.push plain (by omega) machine.cpu.a, UInt8.sub_add_cancel _ _⟩
  | status =>
    simp only [StackUse.size] at room
    exact ⟨before.push plain (by omega) machine.cpu.flags.toPushed, UInt8.sub_add_cancel _ _⟩
  | subroutine =>
    simp only [StackUse.size] at room
    have address := before.pushWord plain room (machine.cpu.pc + 2)
    rw [← ready_pc_call h located.crossedPage] at address
    -- The jump leaves the pointer alone, whatever the operand.
    have jumped (p : Processor) : (p.jump located.operand).sp = p.sp := by
      cases located.operand <;> rfl
    have pointer : (((machine.ready located.crossedPage).execute .jsr located.operand).run
      bus).1.cpu.sp = machine.cpu.sp - 1 - 1 := jumped _
    have two : UInt8.ofNat 2 = 1 + 1 := rfl
    constructor
    · rw [StackUse.push, pointer, StackUse.bytes, ← ready_pc_call h located.crossedPage]
      exact address
    · rw [StackUse.push, pointer, StackUse.size, two, ← UInt8.add_assoc, UInt8.sub_add_cancel,
        UInt8.sub_add_cancel]
  | interrupt =>
    simp only [StackUse.size] at room
    have address := before.pushWord plain (by omega) (machine.cpu.pc + 2)
    have status := address.push plain (by rw [List.length_cons, List.length_cons]; omega)
      machine.cpu.flags.toPushed
    have vectored := (status.read plain 0xFFFE).read plain (0xFFFE + 1)
    have three : UInt8.ofNat 3 = 1 + (1 + 1) := rfl
    have pointer : (((machine.ready located.crossedPage).execute .brk located.operand).run
      bus).1.cpu.sp = machine.cpu.sp - 1 - 1 - 1 := rfl
    constructor
    · rw [StackUse.push, pointer, StackUse.bytes]
      rw [← ready_pc_interrupt h located.crossedPage] at vectored ⊢
      exact vectored
    · rw [StackUse.push, pointer, StackUse.size, three, ← UInt8.add_assoc, ← UInt8.add_assoc,
        UInt8.sub_add_cancel, UInt8.sub_add_cancel, UInt8.sub_add_cancel]

/-- **A pull** gives back what was pushed, and leaves what was stacked before. -/
lemma pull_restores (plain : Bus.PlainStack M) (h : machine.next = use.pull)
    (unguarded : machine.cpu.exitPolicy.enabled = false) {before : Processor}
    (stacked : Bus.Stacked machine.bus machine.cpu.sp (use.bytes before ++ bytes)) :
    machine.step.1 = .ok .continued ∧ use.Restored before machine.step.2.cpu ∧
      machine.step.2.cpu.sp = machine.cpu.sp + UInt8.ofNat use.size ∧
      Bus.Stacked machine.step.2.bus machine.step.2.cpu.sp bytes := by
  have executable : machine.next.isExecutable = true := by rw [h]; cases use <;> rfl
  obtain ⟨located, bus, same, step⟩ := step_fetched plain executable
  have found : Bus.Stacked bus machine.cpu.sp (use.bytes before ++ bytes) :=
    stacked.congr fun _ _ => same _
  have silent (pulls : UInt8) :
      (machine.ready located.crossedPage).exitPolicy.fires (machine.ready located.crossedPage).sp
        pulls = false := by
    change (machine.cpu.exitPolicy.enabled && _) = false
    rw [unguarded]
    rfl
  rw [step, h]
  cases use with
  | accumulator =>
    obtain ⟨top, rest⟩ := found
    exact ⟨rfl, top, rfl, rest.read plain _⟩
  | status =>
    obtain ⟨top, rest⟩ := found
    refine ⟨rfl, ?_, rfl, rest.read plain _⟩
    exact (congrArg Flags.ofPulled top).trans before.flags.ofPulled_toPushed
  | subroutine =>
    obtain ⟨low, high, rest⟩ := found
    have pulled : ((machine.ready located.crossedPage).execute .rts located.operand).run bus =
        (.continued { machine.ready located.crossedPage with
            sp := machine.cpu.sp + 1 + 1
            pc := wordOf (Bus.stackByte bus (machine.cpu.sp + 1)) (Bus.stackByte
              (Bus.read bus (stackCell (machine.cpu.sp + 1))).2 (machine.cpu.sp + 1 + 1)) + 1 },
          (Bus.read (Bus.read bus (stackCell (machine.cpu.sp + 1))).2
            (stackCell (machine.cpu.sp + 1 + 1))).2) := by
      rw [Processor.execute, Processor.returnFromSubroutine, silent]
      rfl
    rw [StackUse.pull, pulled, plain.read, low, high, wordOf_lowByte_highByte]
    exact ⟨rfl, UInt16.add_assoc _ _ _, UInt8.add_assoc _ _ _, (rest.read plain _).read plain _⟩
  | interrupt =>
    obtain ⟨top, low, high, rest⟩ := found
    have pulled : ((machine.ready located.crossedPage).execute .rti located.operand).run bus =
        (.continued { machine.ready located.crossedPage with
            sp := machine.cpu.sp + 1 + 1 + 1
            flags := .ofPulled (Bus.stackByte bus (machine.cpu.sp + 1))
            pc := wordOf
              (Bus.stackByte (Bus.read bus (stackCell (machine.cpu.sp + 1))).2
                (machine.cpu.sp + 1 + 1))
              (Bus.stackByte (Bus.read (Bus.read bus (stackCell (machine.cpu.sp + 1))).2
                (stackCell (machine.cpu.sp + 1 + 1))).2 (machine.cpu.sp + 1 + 1 + 1)) },
          (Bus.read (Bus.read (Bus.read bus (stackCell (machine.cpu.sp + 1))).2
            (stackCell (machine.cpu.sp + 1 + 1))).2
              (stackCell (machine.cpu.sp + 1 + 1 + 1))).2) := by
      rw [Processor.execute, Processor.returnFromInterrupt, silent]
      rfl
    rw [StackUse.pull, pulled, plain.read, plain.read, plain.read, top, low, high,
      wordOf_lowByte_highByte, Flags.ofPulled_toPushed]
    have three : UInt8.ofNat 3 = 1 + (1 + 1) := rfl
    refine ⟨rfl, ⟨rfl, rfl⟩, ?_, ((rest.read plain _).read plain _).read plain _⟩
    rw [StackUse.size, three, ← UInt8.add_assoc, ← UInt8.add_assoc]
    rfl

end Machine

end SidScore
