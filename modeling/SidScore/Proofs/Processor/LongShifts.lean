import Mathlib.Data.List.Nodup
import SidScore.Proofs.Memory.Storage
import SidScore.Proofs.Processor.ByteShifts
import SidScore.Proofs.Processor.Nesting

/-!
# Long shifts

A program shifts a long number where it lies in memory, byte by byte, and the carry flag takes the
bit that leaves one byte to the next.  The bytes may lie at any addresses that store them, and
between two shifts the program may do what it likes, as long as it leaves these bytes and the carry
alone; so a long shift is told by the machines that stand before its instructions,
`Machine.Performs`.

A program that consists of the shifts and nothing else can be read off its code, `Machine.Coded`.
It performs them if none of the shifted bytes lies in the code, for then every instruction is found
as it was.
-/

namespace SidScore

/-! ## One instruction -/

namespace Processor

variable {M : Type} [Bus M] (p : Processor) (memory : M)

lemma execute_shift (shift : Shift) (o : Operand) :
    p.execute shift.mnemonic o = p.modify o (shift.apply p.flags) := by
  obtain ⟨direction, rotates⟩ := shift
  cases direction <;> cases rotates <;> rfl

/-- A byte of memory is written back before the flags are set. -/
lemma run_modify_memory (cell : UInt16) (update : UInt8 → ByteResult) :
    (p.modify (.memory cell) update).run memory =
      (.continued { p with flags := (update (Bus.read memory cell).1).2 },
        Bus.write (Bus.read memory cell).2 cell (update (Bus.read memory cell).1).1) :=
  rfl

lemma run_modify_accumulator (update : UInt8 → ByteResult) :
    (p.modify (.register .accumulator) update).run memory =
      (.continued (p.accumulate (update p.a)), memory) :=
  rfl

end Processor

lemma Shift.isExecutable (shift : Shift) : shift.mnemonic.isExecutable = true := by
  obtain ⟨direction, rotates⟩ := shift
  cases direction <;> cases rotates <;> rfl

/-- Zero and Negative describe a byte. -/
structure Flags.Describes (flags : Flags) (byte : UInt8) : Prop where
  zero : flags.zero = true ↔ byte = 0
  negative : flags.negative = true ↔ 128 ≤ byte.toNat

lemma Flags.describes_afterShift (flags : Flags) (byte : UInt8) (out : Bool) :
    (flags.afterShift byte out).Describes byte where
  zero := beq_iff_eq
  negative := by
    rw [← sign_iff, ← and_signMask]
    rfl

/-- A shift has its operand in the accumulator, or at an address that its own bytes give, with or
without `X`. -/
lemma Opcode.decode_shift {code : UInt8} {shift : Shift}
    (h : (decode code).mnemonic = shift.mnemonic) :
    (decode code).mode ∈ [.accumulator, .zeroPage, .zeroPageX, .absolute, .absoluteX] := by
  have rows : ∀ op ∈ matrix.toList, op.mnemonic ∈ [.asl, .lsr, .rol, .ror] →
      op.mode ∈ [.accumulator, .zeroPage, .zeroPageX, .absolute, .absoluteX] := by
    decide +kernel
  apply rows _ (decode_mem code)
  obtain ⟨direction, rotates⟩ := shift
  rw [h]
  cases direction <;> cases rotates <;> decide

/-- The instructions for a number: its first byte is shifted or rotated, and every further one
rotated. -/
def Direction.pass (direction : Direction) : Bool → List UInt16 → List (Shift × UInt16)
  | _, [] => []
  | rotates, cell :: cells => (⟨direction, rotates⟩, cell) :: direction.pass true cells

namespace Machine

variable {M : Type} [Bus M] (machine : Machine M)

/-- The byte that a read finds at an address. -/
def byteAt (address : UInt16) : UInt8 :=
  (Bus.read machine.bus address).1

/-- The number that lies at some addresses, the lowest byte first. -/
def number (cells : List UInt16) : ℕ :=
  longNumber (cells.map machine.byteAt)

/-- The next instruction shifts its operand, which lies where it is said. -/
@[mk_iff]
structure Shifts (shift : Shift) (operand : Operand) : Prop where
  next : machine.next = shift.mnemonic
  operand : machine.located.1.operand = operand

instance (shift : Shift) (operand : Operand) : Decidable (machine.Shifts shift operand) :=
  decidable_of_iff' _ (machine.shifts_iff shift operand)

variable {machine} {shift : Shift} {cell : UInt16} {Plain : M → Prop} {addresses : UInt16 → Prop}

lemma Shifts.step_eq {operand : Operand} (h : machine.Shifts shift operand) :
    machine.step =
      let ran := ((machine.ready machine.located.1.crossedPage).modify operand
        (shift.apply machine.cpu.flags)).run machine.located.2
      (ran.1.result, ⟨ran.1.cpu, ran.2⟩) := by
  have executable : machine.next.isExecutable = true := by
    rw [h.next]
    exact shift.isExecutable
  rw [step_eq_execute executable, execution, h.next, h.operand, Processor.execute_shift]
  rfl

/-- Fetching an instruction and locating its operand change no byte. -/
lemma agree_located (storage : Bus.Storage M Plain addresses) (plain : Plain machine.bus) :
    Bus.Agree Plain addresses machine.located.2 machine.bus := by
  have located := storage.agree_run
    ({ machine.cpu with fetchedAt := machine.cpu.pc }.locate machine.fetched.mode)
    (storage.read machine.cpu.pc plain) (Processor.writes_locate _ _ _)
  refine ⟨located.plain, plain, fun address stored => ?_⟩
  exact (located.byte address stored).trans (storage.byte_read machine.cpu.pc plain stored)

variable (machine shift cell Plain addresses) in
/-- What a shift of a byte in memory leaves. -/
structure LeavesShifted : Prop where
  continues : machine.step.1 = .ok .continued
  plain : Plain machine.step.2.bus
  byte : machine.step.2.byteAt cell =
    shift.direction.result (shift.enters machine.cpu.flags.carry) (machine.byteAt cell)
  others : ∀ address, addresses address → address ≠ cell →
    machine.step.2.byteAt address = machine.byteAt address
  /-- The flags are those of the byte that was written. -/
  flags : machine.step.2.cpu.flags = machine.cpu.flags.afterShift (machine.step.2.byteAt cell)
    (shift.direction.out (machine.byteAt cell))
  pc : machine.step.2.cpu.pc = machine.cpu.pc + machine.fetched.size.toUInt16
  indices : machine.step.2.cpu.x = machine.cpu.x ∧ machine.step.2.cpu.y = machine.cpu.y

lemma Shifts.leaves (h : machine.Shifts shift (.memory cell))
    (storage : Bus.Storage M Plain addresses) (plain : Plain machine.bus)
    (inside : addresses cell) : machine.LeavesShifted shift cell Plain addresses := by
  have located := agree_located storage plain
  have byte : (Bus.read machine.located.2 cell).1 = machine.byteAt cell :=
    located.byte cell inside
  have step := h.step_eq
  rw [Processor.run_modify_memory, byte, shift.apply_eq] at step
  have kept := storage.read cell located.plain
  have written (address : UInt16) (stored : addresses address) :
      machine.step.2.byteAt address =
        if cell = address then
          shift.direction.result (shift.enters machine.cpu.flags.carry) (machine.byteAt cell)
        else machine.byteAt address := by
    rw [step, byteAt, storage.byte_write _ kept inside stored,
      storage.byte_read cell located.plain stored, located.byte address stored]
    rfl
  have result := (written cell inside).trans (if_pos rfl)
  refine ⟨?_, ?_, result, ?_, ?_, ?_, ?_⟩
  · rw [step]
    rfl
  · rw [step]
    exact storage.write _ kept inside
  · intro address stored other
    exact (written address stored).trans (if_neg other.symm)
  · rw [result, step]
    rfl
  · rw [step]
    rfl
  · rw [step]
    exact ⟨rfl, rfl⟩

/-- A shift goes through, and its flags describe the byte that it has written. -/
lemma Shifts.describes (h : machine.Shifts shift (.memory cell))
    (storage : Bus.Storage M Plain addresses) (plain : Plain machine.bus)
    (inside : addresses cell) :
    machine.step.1 = .ok .continued ∧
      machine.step.2.cpu.flags.Describes (machine.step.2.byteAt cell) := by
  have shifted := h.leaves storage plain inside
  refine ⟨shifted.continues, ?_⟩
  rw [shifted.flags]
  exact Flags.describes_afterShift _ _ _

lemma Shifts.accumulator (h : machine.Shifts shift (.register .accumulator)) :
    machine.step.1 = .ok .continued ∧
      machine.step.2.cpu.a =
        shift.direction.result (shift.enters machine.cpu.flags.carry) machine.cpu.a ∧
      machine.step.2.cpu.flags = machine.cpu.flags.afterShift machine.step.2.cpu.a
        (shift.direction.out machine.cpu.a) := by
  have step := h.step_eq
  rw [Processor.run_modify_accumulator, shift.apply_eq] at step
  rw [step]
  exact ⟨rfl, rfl, rfl⟩

/-- In the accumulator a byte is shifted as in memory. -/
lemma Shifts.accumulator_eq_memory {other : Machine M}
    (h : machine.Shifts shift (.register .accumulator)) (h' : other.Shifts shift (.memory cell))
    (storage : Bus.Storage M Plain addresses) (plain : Plain other.bus) (inside : addresses cell)
    (byte : machine.cpu.a = other.byteAt cell)
    (carry : machine.cpu.flags.carry = other.cpu.flags.carry) :
    machine.step.1 = .ok .continued ∧ machine.step.2.cpu.a = other.step.2.byteAt cell ∧
      machine.step.2.cpu.flags.SameComparison other.step.2.cpu.flags := by
  obtain ⟨goesOn, result, flags⟩ := h.accumulator
  have shifted := h'.leaves storage plain inside
  have same : machine.step.2.cpu.a = other.step.2.byteAt cell := by
    rw [result, shifted.byte, byte, carry]
  refine ⟨goesOn, same, ?_⟩
  rw [flags, shifted.flags, same, byte]
  exact ⟨rfl, rfl, rfl⟩

/-! ## Programs of shifts -/

section Programs

variable (Plain addresses)

/-- A run that leaves the carry and the stored bytes alone. -/
structure Spares (machine other : Machine M) : Prop where
  run : ∃ n, other = machine.after n
  plain : Plain other.bus
  carry : other.cpu.flags.carry = machine.cpu.flags.carry
  byte : ∀ address, addresses address → other.byteAt address = machine.byteAt address

/-- A run that carries out some shifts in turn, and leaves the carry and the stored bytes alone
before each of them and behind the last. -/
def Performs : List (Shift × UInt16) → Machine M → Machine M → Prop
  | [], machine, final => Spares Plain addresses machine final
  | (shift, cell) :: rest, machine, final =>
    ∃ before : Machine M, Spares Plain addresses machine before ∧
      before.Shifts shift (.memory cell) ∧ Performs rest before.step.2 final

/-- A number lies at some addresses: they are distinct, and each of them stores its byte. -/
structure Holds (machine : Machine M) (cells : List UInt16) : Prop where
  plain : Plain machine.bus
  nonempty : cells ≠ []
  distinct : cells.Nodup
  inside : ∀ cell ∈ cells, addresses cell

/-- What a pass over some cells leaves: their bytes and the carry as they went through, and every
other byte as it was. -/
structure Passed (direction : Direction) (enters : Bool) (cells : List UInt16)
    (machine final : Machine M) : Prop where
  plain : Plain final.bus
  bytes : cells.map final.byteAt = (direction.through enters (cells.map machine.byteAt)).1
  carry : final.cpu.flags.carry = (direction.through enters (cells.map machine.byteAt)).2
  others : ∀ address, addresses address → address ∉ cells →
    final.byteAt address = machine.byteAt address

/-- A number and a carry are left, and every other byte as it was. -/
structure LeavesNumber (cells : List UInt16) (number : ℕ) (carry : Bool)
    (machine final : Machine M) : Prop where
  number : final.number cells = number
  carry : final.cpu.flags.carry = carry
  others : ∀ address, addresses address → address ∉ cells →
    final.byteAt address = machine.byteAt address

variable {Plain addresses} {final : Machine M} {direction : Direction} {cells : List UInt16}

lemma spares_self (plain : Plain machine.bus) : Spares Plain addresses machine machine :=
  ⟨⟨0, rfl⟩, plain, rfl, fun _ _ => rfl⟩

/-- A run that performs two programs in turn has a machine between them. -/
lemma exists_performs {first second : List (Shift × UInt16)} (plain : Plain machine.bus)
    (h : Performs Plain addresses (first ++ second) machine final)
    (kept : ∀ pair ∈ first, addresses pair.2) (storage : Bus.Storage M Plain addresses) :
    ∃ middle, Performs Plain addresses first machine middle ∧
      Performs Plain addresses second middle final := by
  induction first generalizing machine with
  | nil => exact ⟨machine, spares_self plain, h⟩
  | cons pair rest ih =>
    obtain ⟨before, spares, shifts, later⟩ := h
    have shifted := shifts.leaves storage spares.plain (kept pair List.mem_cons_self)
    obtain ⟨middle, performs, second⟩ :=
      ih shifted.plain later fun other mem => kept other (List.mem_cons_of_mem pair mem)
    exact ⟨middle, ⟨before, spares, shifts, performs⟩, second⟩

/-- Every shift takes the bit that the one before it has put into the carry. -/
lemma Performs.passed {rotates : Bool}
    (h : Performs Plain addresses (direction.pass rotates cells) machine final)
    (storage : Bus.Storage M Plain addresses) (plain : Plain machine.bus)
    (distinct : cells.Nodup) (inside : ∀ cell ∈ cells, addresses cell)
    (starts : cells = [] → rotates = true) :
    Passed Plain addresses direction (rotates && machine.cpu.flags.carry) cells machine final := by
  induction cells generalizing machine rotates with
  | nil =>
    have spares : Spares Plain addresses machine final := h
    refine ⟨spares.plain, rfl, ?_, fun address stored _ => spares.byte address stored⟩
    rw [starts rfl]
    exact spares.carry
  | cons cell rest ih =>
    obtain ⟨before, spares, shifts, later⟩ := h
    obtain ⟨apart, distinct⟩ := List.nodup_cons.mp distinct
    obtain ⟨here, inside⟩ := List.forall_mem_cons.mp inside
    have shifted := shifts.leaves storage spares.plain here
    have passed := ih later shifted.plain distinct inside fun _ => rfl
    have out : before.step.2.cpu.flags.carry = direction.out (machine.byteAt cell) := by
      rw [shifted.flags, ← spares.byte cell here]
      rfl
    have result : before.step.2.byteAt cell =
        direction.result (rotates && machine.cpu.flags.carry) (machine.byteAt cell) := by
      rw [shifted.byte, spares.byte cell here, spares.carry]
      rfl
    -- The shift of one cell leaves those that are still to come.
    have higher : rest.map before.step.2.byteAt = rest.map machine.byteAt := by
      refine List.map_congr_left fun other mem => ?_
      have differs : other ≠ cell := fun same => apart (same ▸ mem)
      rw [shifted.others other (inside other mem) differs, spares.byte other (inside other mem)]
    obtain ⟨plain, bytes, carry, others⟩ := passed
    rw [higher, out, Bool.true_and] at bytes carry
    refine ⟨plain, ?_, carry, fun address stored outside => ?_⟩
    · rw [List.map_cons, others cell here apart, result, bytes]
      rfl
    · obtain ⟨differs, outside⟩ := not_or.mp (mt List.mem_cons.mpr outside)
      rw [others address stored outside, shifted.others address stored differs,
        spares.byte address stored]

lemma inside_of_mem_pass {rotates : Bool} (inside : ∀ cell ∈ cells, addresses cell) :
    ∀ pair ∈ direction.pass rotates cells, addresses pair.2 := by
  induction cells generalizing rotates with
  | nil => exact List.forall_mem_nil _
  | cons cell rest ih =>
    obtain ⟨here, inside⟩ := List.forall_mem_cons.mp inside
    exact List.forall_mem_cons.mpr ⟨here, ih inside⟩

omit [Bus M] in
lemma Holds.reverse (h : Holds Plain addresses machine cells) :
    Holds Plain addresses machine cells.reverse where
  plain := h.plain
  nonempty := mt List.reverse_eq_nil_iff.mp h.nonempty
  distinct := List.nodup_reverse.mpr h.distinct
  inside cell mem := h.inside cell (List.mem_reverse.mp mem)

lemma Holds.passed {rotates : Bool} (h : Holds Plain addresses machine cells)
    (storage : Bus.Storage M Plain addresses)
    (performs : Performs Plain addresses (direction.pass rotates cells) machine final) :
    Passed Plain addresses direction (rotates && machine.cpu.flags.carry) cells machine final :=
  performs.passed storage h.plain h.distinct h.inside fun empty => absurd empty h.nonempty

/-- `ASL`, and `ROL` for every further byte upwards. -/
lemma Holds.left (h : Holds Plain addresses machine cells)
    (storage : Bus.Storage M Plain addresses)
    (performs : Performs Plain addresses (Direction.left.pass false cells) machine final) :
    LeavesNumber addresses cells (2 * machine.number cells % 256 ^ cells.length)
      ((machine.number cells).testBit (8 * cells.length - 1)) machine final := by
  obtain ⟨-, bytes, carry, others⟩ := h.passed storage performs
  obtain ⟨number, out⟩ := Direction.left_number (List.map_eq_nil_iff.not.mpr h.nonempty)
  rw [List.length_map] at number out
  refine ⟨?_, carry.trans out, others⟩
  rw [Machine.number, bytes]
  exact number

/-- `LSR`, and `ROR` for every further byte downwards. -/
lemma Holds.right (h : Holds Plain addresses machine cells)
    (storage : Bus.Storage M Plain addresses)
    (performs : Performs Plain addresses (Direction.right.pass false cells.reverse) machine final) :
    LeavesNumber addresses cells (machine.number cells / 2) ((machine.number cells).testBit 0)
      machine final := by
  obtain ⟨-, bytes, carry, others⟩ := h.reverse.passed storage performs
  simp only [List.map_reverse] at bytes carry
  obtain ⟨number, out⟩ := Direction.right_number (cells.map machine.byteAt).reverse
  rw [List.reverse_reverse] at number out
  refine ⟨?_, carry.trans out, fun address stored outside => ?_⟩
  · rw [Machine.number, ← List.reverse_reverse (cells.map final.byteAt), bytes]
    exact number
  · exact others address stored (mt List.mem_reverse.mp outside)

/-- `ROL` for every byte upwards, and `ROR` for every byte downwards. -/
lemma Holds.back (h : Holds Plain addresses machine cells)
    (storage : Bus.Storage M Plain addresses)
    (performs : Performs Plain addresses
      (Direction.left.pass true cells ++ Direction.right.pass true cells.reverse) machine final) :
    final.cpu.flags.carry = machine.cpu.flags.carry ∧
      ∀ address, addresses address → final.byteAt address = machine.byteAt address := by
  obtain ⟨middle, up, down⟩ :=
    exists_performs h.plain performs (inside_of_mem_pass h.inside) storage
  have there := h.passed storage up
  have holds : Holds Plain addresses middle cells := { h with plain := there.plain }
  obtain ⟨-, bytes, carry, others⟩ := holds.reverse.passed storage down
  -- The bit that has come back is the one that left.
  simp only [List.map_reverse, there.bytes, there.carry, Bool.true_and,
    Direction.through_back] at bytes carry
  refine ⟨carry, fun address stored => ?_⟩
  by_cases mem : address ∈ cells
  · exact List.map_inj_left.mp (List.reverse_inj.mp bytes) address mem
  · rw [others address stored (mt List.mem_reverse.mp mem), there.others address stored mem]

end Programs

/-! ## Code -/

section Code

variable (machine)

/-- The addresses of the next instruction. -/
def instructionCells : List UInt16 :=
  (List.range machine.fetched.size.toNat).map fun k => machine.cpu.pc + UInt16.ofNat k

/-- The machine with its program counter behind the next instruction, which is not carried out. -/
def behind : Machine M :=
  { machine with cpu.pc := machine.cpu.pc + machine.fetched.size.toUInt16 }

/-- The addresses of a number of instructions. -/
def codeCells (machine : Machine M) : ℕ → List UInt16
  | 0 => []
  | n + 1 => machine.instructionCells ++ machine.behind.codeCells n

/-- The instructions at the program counter are some shifts in turn. -/
def Coded : Machine M → List (Shift × UInt16) → Prop
  | _, [] => True
  | machine, (shift, cell) :: rest =>
    machine.Shifts shift (.memory cell) ∧ machine.behind.Coded rest

instance decidableCoded : (machine : Machine M) → (program : List (Shift × UInt16)) →
    Decidable (machine.Coded program)
  | _, [] => isTrue trivial
  | machine, _ :: rest =>
    have := decidableCoded machine.behind rest
    inferInstanceAs (Decidable (_ ∧ _))

variable (Plain) in
/-- Two machines stand before the same code. -/
structure SameCode (code : UInt16 → Prop) (machine other : Machine M) : Prop where
  pc : machine.cpu.pc = other.cpu.pc
  x : machine.cpu.x = other.cpu.x
  y : machine.cpu.y = other.cpu.y
  bus : Bus.Agree Plain code machine.bus other.bus

variable {machine} {other : Machine M} {code : UInt16 → Prop}

lemma mem_instructionCells {address : UInt16} : address ∈ machine.instructionCells ↔
    ∃ k < machine.fetched.size.toNat, machine.cpu.pc + UInt16.ofNat k = address := by
  rw [instructionCells, List.mem_map]
  exact exists_congr fun k => and_congr_left' List.mem_range

/-- A shift finds its operand by its own bytes. -/
lemma Shifts.reads_locate {operand : Operand} (h : machine.Shifts shift operand) (p : Processor)
    (pc : p.pc = machine.cpu.pc) (memory : M) :
    ∀ address ∈ (p.locate machine.fetched.mode).reads memory,
      address ∈ machine.instructionCells := by
  have byte (k : ℕ) (hk : k ≤ machine.fetched.mode.operandBytes.toNat) :
      p.pc + UInt16.ofNat k ∈ machine.instructionCells := by
    rw [pc]
    refine mem_instructionCells.mpr ⟨k, ?_, rfl⟩
    rw [Opcode.size]
    cases mode : machine.fetched.mode <;> rw [mode] at hk <;> exact Nat.lt_succ_of_le hk
  have modes : machine.fetched.mode ∈ _ := Opcode.decode_shift h.next
  cases mode : machine.fetched.mode with
  | accumulator => exact List.forall_mem_nil _
  | zeroPage | zeroPageX =>
    rw [mode] at byte
    exact List.forall_mem_singleton.mpr (byte 1 (by decide))
  | absolute | absoluteX =>
    rw [mode] at byte
    have second : p.pc + 1 + 1 ∈ machine.instructionCells :=
      (UInt16.add_assoc p.pc 1 1).symm ▸ byte 2 (by decide)
    exact List.forall_mem_cons.mpr ⟨byte 1 (by decide), List.forall_mem_singleton.mpr second⟩
  | _ => simp [mode] at modes

/-- A shift is the same one before the same code. -/
lemma SameCode.shifts (same : SameCode Plain code machine other)
    (storage : Bus.Storage M Plain addresses) (inside : ∀ address, code address → addresses address)
    (covers : ∀ address ∈ machine.instructionCells, code address)
    (h : machine.Shifts shift (.memory cell)) :
    other.fetched = machine.fetched ∧ other.Shifts shift (.memory cell) := by
  have simulation := storage.simulation inside
  have first : code machine.cpu.pc :=
    covers _ (mem_instructionCells.mpr ⟨0, (Opcode.size_toNat_bounds _).1, UInt16.add_zero _⟩)
  obtain ⟨byte, agree⟩ := simulation.read first same.bus
  have fetched : other.fetched = machine.fetched := by
    rw [Machine.fetched, Machine.fetched, ← same.pc, byte]
  have locate : { other.cpu with fetchedAt := other.cpu.pc }.locate machine.fetched.mode =
      { machine.cpu with fetchedAt := machine.cpu.pc }.locate machine.fetched.mode :=
    Processor.locate_congr same.pc.symm same.x.symm same.y.symm _
  have ran := simulation.run
    ({ machine.cpu with fetchedAt := machine.cpu.pc }.locate machine.fetched.mode) agree
    (fun address mem => covers address (h.reads_locate _ rfl _ address mem))
    (by rw [Processor.writes_locate]; exact List.forall_mem_nil _)
  have located : other.located.1 = machine.located.1 := by
    rw [Machine.located, Machine.located, fetched, locate, ← same.pc]
    exact ran.1.symm
  refine ⟨fetched, ?_, ?_⟩
  · rw [Machine.next, fetched]
    exact h.next
  · rw [located]
    exact h.operand

/-- Behind a shift that leaves the code alone, the code goes on as it was. -/
lemma SameCode.behind (same : SameCode Plain code machine other)
    (inside : ∀ address, code address → addresses address)
    (fetched : other.fetched = machine.fetched)
    (shifted : other.LeavesShifted shift cell Plain addresses) (spared : ¬ code cell) :
    SameCode Plain code machine.behind other.step.2 where
  pc := by
    rw [shifted.pc, fetched, ← same.pc]
    rfl
  x := same.x.trans shifted.indices.1.symm
  y := same.y.trans shifted.indices.2.symm
  bus := by
    refine ⟨same.bus.plain, shifted.plain, fun address mem => ?_⟩
    have differs : address ≠ cell := fun same => spared (same ▸ mem)
    exact (same.bus.byte address mem).trans
      (shifted.others address (inside address mem) differs).symm

/-- Shifts that leave their own code alone are met as they were read. -/
lemma SameCode.along {program : List (Shift × UInt16)} (same : SameCode Plain code machine other)
    (storage : Bus.Storage M Plain addresses) (inside : ∀ address, code address → addresses address)
    (coded : machine.Coded program)
    (covers : ∀ address ∈ machine.codeCells program.length, code address)
    (apart : ∀ pair ∈ program, addresses pair.2 ∧ ¬ code pair.2) (k : ℕ)
    (hk : k < program.length) :
    Plain (other.after k).bus ∧
      (other.after k).Shifts program[k].1 (.memory program[k].2) := by
  -- The code is read along `machine`, where nothing is carried out, and met along `other`.
  induction program generalizing machine other k with
  | nil => exact absurd hk k.not_lt_zero
  | cons pair rest ih =>
    obtain ⟨shift, cell⟩ := pair
    obtain ⟨read, coded⟩ := coded
    obtain ⟨here, later⟩ := List.forall_mem_append.mp covers
    obtain ⟨⟨stored, spared⟩, apart⟩ := List.forall_mem_cons.mp apart
    obtain ⟨fetched, shifts⟩ := same.shifts storage inside here read
    cases k with
    | zero => exact ⟨same.bus.plain', shifts⟩
    | succ k =>
      have shifted := shifts.leaves storage same.bus.plain' stored
      have met := ih (same.behind inside fetched shifted spared) coded later apart k
        (Nat.lt_of_succ_lt_succ hk)
      rw [after_step] at met
      exact met

/-- Shifts without anything between them. -/
lemma performs_after {program : List (Shift × UInt16)}
    (storage : Bus.Storage M Plain addresses) (plain : Plain machine.bus)
    (inside : ∀ pair ∈ program, addresses pair.2)
    (shifts : ∀ k (hk : k < program.length),
      (machine.after k).Shifts program[k].1 (.memory program[k].2)) :
    Performs Plain addresses program machine (machine.after program.length) := by
  induction program generalizing machine with
  | nil => exact spares_self plain
  | cons pair rest ih =>
    obtain ⟨here, inside⟩ := List.forall_mem_cons.mp inside
    have first := shifts 0 (Nat.zero_lt_succ _)
    have shifted := first.leaves storage plain here
    have later := ih shifted.plain inside fun k hk => by
      rw [after_step]
      exact shifts (k + 1) (Nat.succ_lt_succ hk)
    refine ⟨machine, spares_self plain, first, ?_⟩
    rw [after_step] at later
    exact later

/-- A program of shifts does what its code says, and its flags describe the byte written last. -/
lemma Coded.performs {program : List (Shift × UInt16)} (coded : machine.Coded program)
    (storage : Bus.Storage M Plain addresses) (plain : Plain machine.bus)
    (inside : ∀ address ∈ machine.codeCells program.length, addresses address)
    (apart : ∀ pair ∈ program,
      addresses pair.2 ∧ pair.2 ∉ machine.codeCells program.length) :
    Performs Plain addresses program machine (machine.after program.length) ∧
      ∀ k (hk : k < program.length), (machine.after k).step.1 = .ok .continued ∧
        (machine.after (k + 1)).cpu.flags.Describes
          ((machine.after (k + 1)).byteAt program[k].2) := by
  have same : SameCode Plain (· ∈ machine.codeCells program.length) machine machine :=
    ⟨rfl, rfl, rfl, plain, plain, fun _ _ => rfl⟩
  have along := same.along storage inside coded (fun _ mem => mem) apart
  refine ⟨?_, fun k hk => ?_⟩
  · exact performs_after storage plain (fun pair mem => (apart pair mem).1)
      fun k hk => (along k hk).2
  · obtain ⟨plain, shifts⟩ := along k hk
    exact shifts.describes storage plain (apart _ (List.getElem_mem hk)).1

end Code

/-! ## On every memory -/

/-- Shifts and rotations of numbers that lie in memory are exact. -/
structure ExactShifts (M : Type) [Bus M] (Plain : M → Prop) (addresses : UInt16 → Prop) :
    Prop where
  /-- To the left a number is doubled, as far as its bytes go, and its top bit is the carry. -/
  left : ∀ {machine final : Machine M} {cells : List UInt16}, Holds Plain addresses machine cells →
    Performs Plain addresses (Direction.left.pass false cells) machine final →
    LeavesNumber addresses cells (2 * machine.number cells % 256 ^ cells.length)
      ((machine.number cells).testBit (8 * cells.length - 1)) machine final
  /-- To the right it is halved, and its lowest bit is the carry. -/
  right : ∀ {machine final : Machine M} {cells : List UInt16}, Holds Plain addresses machine cells →
    Performs Plain addresses (Direction.right.pass false cells.reverse) machine final →
    LeavesNumber addresses cells (machine.number cells / 2) ((machine.number cells).testBit 0)
      machine final
  /-- A rotation upwards and one downwards restore every byte and the carry. -/
  back : ∀ {machine final : Machine M} {cells : List UInt16}, Holds Plain addresses machine cells →
    Performs Plain addresses
      (Direction.left.pass true cells ++ Direction.right.pass true cells.reverse) machine final →
    final.cpu.flags.carry = machine.cpu.flags.carry ∧
      ∀ address, addresses address → final.byteAt address = machine.byteAt address
  /-- Every shift goes through, and Zero and Negative describe the byte that it has written. -/
  described : ∀ {machine : Machine M} {shift : Shift} {cell : UInt16}, Plain machine.bus →
    addresses cell → machine.Shifts shift (.memory cell) →
    machine.step.1 = .ok .continued ∧
      machine.step.2.cpu.flags.Describes (machine.step.2.byteAt cell)
  /-- The accumulator is shifted as the same byte in memory is. -/
  accumulator : ∀ {machine other : Machine M} {shift : Shift} {cell : UInt16}, Plain other.bus →
    addresses cell → machine.Shifts shift (.register .accumulator) →
    other.Shifts shift (.memory cell) → machine.cpu.a = other.byteAt cell →
    machine.cpu.flags.carry = other.cpu.flags.carry →
    machine.step.1 = .ok .continued ∧ machine.step.2.cpu.a = other.step.2.byteAt cell ∧
      machine.step.2.cpu.flags.SameComparison other.step.2.cpu.flags
  /-- A program of shifts is performed as its code reads, if the shifted bytes are no part of the
  code; and the last byte written is described all along. -/
  code : ∀ {machine : Machine M} {program : List (Shift × UInt16)}, Plain machine.bus →
    machine.Coded program → (∀ address ∈ machine.codeCells program.length, addresses address) →
    (∀ pair ∈ program, addresses pair.2 ∧ pair.2 ∉ machine.codeCells program.length) →
    Performs Plain addresses program machine (machine.after program.length) ∧
      ∀ k (hk : k < program.length), (machine.after k).step.1 = .ok .continued ∧
        (machine.after (k + 1)).cpu.flags.Describes
          ((machine.after (k + 1)).byteAt program[k].2)

lemma exactShifts (storage : Bus.Storage M Plain addresses) : ExactShifts M Plain addresses where
  left holds performs := holds.left storage performs
  right holds performs := holds.right storage performs
  back holds performs := holds.back storage performs
  described plain inside shifts := shifts.describes storage plain inside
  accumulator plain inside shifts shifts' byte carry :=
    shifts.accumulator_eq_memory shifts' storage plain inside byte carry
  code plain coded inside apart := coded.performs storage plain inside apart

/-- **Chained shifts and rotations are exact**, for numbers of any length at any distinct addresses
of a memory that stores bytes there.  Plain memory does so at all addresses, and banked memory at
those where plain memory shows. -/
theorem longShifts_exact :
    (∀ (M : Type) [Bus M] (Plain : M → Prop) (addresses : UInt16 → Prop),
      Bus.Storage M Plain addresses → ExactShifts M Plain addresses) ∧
    ∀ addresses : UInt16 → Prop, Bus.Storage Ram (fun _ => True) addresses ∧
      Bus.Storage BankedMemory (BankedMemory.ShowsRam addresses) addresses :=
  ⟨fun _ _ _ _ storage => exactShifts storage,
    fun addresses => ⟨Ram.storage addresses, BankedMemory.storage addresses⟩⟩

/-- `ASL $12FE; ROL $34,X` at `$0200`, with `$F0` in `X`: the number `$80C1`, its lower byte at
`$12FE` and its higher one at `$0024`. -/
def shiftProgram : Machine Ram where
  cpu := { Processor.powerOn 0x0200 with x := 0xF0 }
  bus := ((Ram.empty.load 0x0200 [0x0E, 0xFE, 0x12, 0x36, 0x34]).poke 0x12FE 0xC1).poke 0x0024 0x80

namespace shiftProgram

/-- Where the number lies. -/
def cells : List UInt16 :=
  [0x12FE, 0x0024]

/-- The theorem there: what fits of the double is `$0182`, and the top bit is the carry. -/
theorem number_doubled : Bus.Storage Ram (fun _ => True) (fun _ => True) ∧
    Holds (fun _ => True) (fun _ => True) shiftProgram cells ∧
    shiftProgram.Coded (Direction.left.pass false cells) ∧
    shiftProgram.codeCells 2 = [0x0200, 0x0201, 0x0202, 0x0203, 0x0204] ∧
    (shiftProgram.after 2).number cells = 0x0182 ∧
    (shiftProgram.after 2).cpu.flags.carry = true ∧
    (shiftProgram.after 2).cpu.flags.Describes 0x01 := by
  obtain ⟨exact_shifts, storages⟩ := longShifts_exact
  have storage := (storages fun _ => True).1
  have laws := exact_shifts Ram (fun _ => True) (fun _ => True) storage
  have holds : Holds (fun _ => True) (fun _ => True) shiftProgram cells :=
    ⟨trivial, List.cons_ne_nil _ _, by decide, fun _ _ => trivial⟩
  have coded : shiftProgram.Coded (Direction.left.pass false cells) := by decide +kernel
  have code : shiftProgram.codeCells 2 = [0x0200, 0x0201, 0x0202, 0x0203, 0x0204] := by
    decide +kernel
  have apart : ∀ cell ∈ cells, cell ∉ shiftProgram.codeCells 2 := by
    rw [code]
    simp [cells]
  have number : shiftProgram.number cells = 0x80C1 := by decide +kernel
  obtain ⟨performs, described⟩ := laws.code trivial coded (fun _ _ => trivial) fun pair mem =>
    ⟨trivial, inside_of_mem_pass apart pair mem⟩
  have two : (Direction.left.pass false cells).length = 2 ∧ cells.length = 2 := ⟨rfl, rfl⟩
  rw [two.1] at performs
  obtain ⟨doubled, carry, -⟩ := laws.left holds performs
  rw [number, two.2] at doubled carry
  have byte : (shiftProgram.after 2).byteAt 0x0024 = 0x01 := by decide +kernel
  have last := (described 1 Nat.one_lt_two).2
  simp only [cells, Direction.pass, List.getElem_cons_succ, List.getElem_cons_zero,
    Nat.reduceAdd] at last
  rw [byte] at last
  exact ⟨storage, holds, coded, code, doubled, carry.trans (by decide), last⟩

end shiftProgram

end Machine

end SidScore
