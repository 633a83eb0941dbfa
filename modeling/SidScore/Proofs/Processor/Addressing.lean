import Mathlib.Algebra.Order.Ring.Int
import SidScore.Memory.Ram
import SidScore.Processor.Operand
import SidScore.Proofs.Word

/-!
# Effective addresses

The rules by which an instruction finds its operand, written down in numbers: sums and remainders,
nothing that wraps by itself.  `Surroundings` holds all that the rules may look at, and
`Surroundings.address?` is the effective address of each addressing mode.  The processor finds the
operand that these rules name, and finding it changes no byte of memory.

Three remainders tell the modes apart.  Addresses wrap behind `$FFFF`; indexing in page zero, and
fetching a pointer there, wrap behind `$FF`; and the pointer of an indirect jump is fetched without
leaving its page.
-/

namespace SidScore

/-- What an instruction finds around it: the bytes of memory, its own address and the indices. -/
structure Surroundings where
  /-- The byte at an address. -/
  byte : ℕ → ℕ
  /-- The address of the opcode. -/
  pc : ℕ
  /-- The `X` index. -/
  x : ℕ
  /-- The `Y` index. -/
  y : ℕ

namespace Surroundings

variable (s : Surroundings)

/-- The byte behind the opcode. -/
def operandByte : ℕ :=
  s.byte ((s.pc + 1) % 65536)

/-- The word behind the opcode, low byte first. -/
def operandWord : ℕ :=
  s.operandByte + s.byte ((s.pc + 2) % 65536) * 256

/-- The word in page zero that begins at a cell, both cells counted around the page. -/
def zeroPageWord (cell : ℕ) : ℕ :=
  s.byte (cell % 256) + s.byte ((cell + 1) % 256) * 256

/-- The word at a pointer, its high byte taken from the page of its low byte. -/
def pageWord (pointer : ℕ) : ℕ :=
  s.byte pointer + s.byte (pointer / 256 * 256 + (pointer + 1) % 256) * 256

/-- The base address and the index of the modes that index a full address. -/
def indexing? : Mode → Option (ℕ × ℕ)
  | .absoluteX => some (s.operandWord, s.x)
  | .absoluteY => some (s.operandWord, s.y)
  | .indirectY => some (s.zeroPageWord s.operandByte, s.y)
  | _ => none

/-- The effective address of the modes that have one. -/
def address? : Mode → Option ℕ
  | .implicit | .accumulator | .immediate => none
  | .zeroPage => some s.operandByte
  | .zeroPageX => some ((s.operandByte + s.x) % 256)
  | .zeroPageY => some ((s.operandByte + s.y) % 256)
  | .relative => some ((s.pc + 2 + signed s.operandByte) % 65536).toNat
  | .absolute => some s.operandWord
  | .absoluteX => some ((s.operandWord + s.x) % 65536)
  | .absoluteY => some ((s.operandWord + s.y) % 65536)
  | .indirect => some (s.pageWord s.operandWord)
  | .indirectX => some (s.zeroPageWord (s.operandByte + s.x))
  | .indirectY => some ((s.zeroPageWord s.operandByte + s.y) % 65536)

/-- Indexing a full address leads to another page than the base. -/
def crosses (mode : Mode) : Bool :=
  (s.indexing? mode).any fun (base, index) => base / 256 != (base + index) % 65536 / 256

/-- The operand is the one that the rules name. -/
def Names (mode : Mode) : Operand → Prop
  | .register r => (mode = .implicit ∨ mode = .accumulator) ∧ r = .accumulator
  | .immediate value => mode = .immediate ∧ value.toNat = s.operandByte
  | .memory address => s.address? mode = some address.toNat

variable {s}

/-- The modes with an address have their operand there. -/
lemma Names.memory {mode : Mode} {o : Operand} (h : s.Names mode o)
    (addressed : (s.address? mode).isSome = true) :
    ∃ address, o = .memory address ∧ s.address? mode = some address.toNat := by
  cases o with
  | register r =>
    obtain ⟨rfl | rfl, -⟩ := h
    · cases addressed
    · cases addressed
  | immediate value =>
    obtain ⟨rfl, -⟩ := h
    cases addressed
  | memory address => exact ⟨address, rfl, h⟩

end Surroundings

/-- The surroundings of the instruction at the program counter. -/
def Processor.surroundings (p : Processor) (ram : Ram) : Surroundings where
  byte address := (ram.peek (UInt16.ofNat address)).toNat
  pc := p.pc.toNat
  x := p.x.toNat
  y := p.y.toNat

/-! ## From words to numbers -/

namespace Processor

variable (p : Processor) (ram : Ram)

lemma surroundings_byte (address : UInt16) :
    (p.surroundings ram).byte address.toNat = (ram.peek address).toNat := by
  simp only [surroundings, UInt16.ofNat_toNat]

lemma surroundings_operandByte :
    (p.surroundings ram).operandByte = (ram.peek (p.pc + 1)).toNat :=
  p.surroundings_byte ram (p.pc + 1)

lemma surroundings_operandWord :
    (p.surroundings ram).operandWord =
      (wordOf (ram.peek (p.pc + 1)) (ram.peek (p.pc + 1 + 1))).toNat := by
  have behind : (p.pc.toNat + 2) % 65536 = (p.pc + 1 + 1).toNat := by
    simp only [UInt16.toNat_add, UInt16.reduceToNat]
    omega
  have high : (p.surroundings ram).byte ((p.pc.toNat + 2) % 65536) =
      (ram.peek (p.pc + 1 + 1)).toNat := by
    rw [behind, surroundings_byte]
  rw [toNat_wordOf, Nat.add_comm, ← surroundings_operandByte, ← high]
  rfl

/-- A cell of page zero is counted around the page by the byte that names it. -/
lemma surroundings_zeroPageWord {number : ℕ} {cell : UInt8} (h : number % 256 = cell.toNat) :
    (p.surroundings ram).zeroPageWord number =
      (wordOf (ram.peek cell.toUInt16) (ram.peek (cell + 1).toUInt16)).toNat := by
  have next : (number + 1) % 256 = (cell + 1).toUInt16.toNat := by
    simp only [UInt8.toNat_toUInt16, UInt8.toNat_add, UInt8.reduceToNat]
    omega
  rw [Surroundings.zeroPageWord, h, next, ← UInt8.toNat_toUInt16, surroundings_byte,
    surroundings_byte, toNat_wordOf, Nat.add_comm]

lemma surroundings_pageWord (pointer : UInt16) :
    (p.surroundings ram).pageWord pointer.toNat =
      (wordOf (ram.peek pointer)
        (ram.peek ((pointer &&& 0xFF00) ||| ((pointer + 1) &&& 0x00FF)))).toNat := by
  have next : pointer.toNat / 256 * 256 + (pointer.toNat + 1) % 256 =
      ((pointer &&& 0xFF00) ||| ((pointer + 1) &&& 0x00FF)).toNat := by
    have one : UInt16.toNat 1 = 1 := rfl
    rw [toNat_page_or_offset, UInt16.toNat_add, one]
    omega
  rw [Surroundings.pageWord, next, surroundings_byte, surroundings_byte, toNat_wordOf,
    Nat.add_comm]

/-! ## What the processor finds -/

lemma toNat_zeroPageIndexed (cell index : UInt8) :
    (cell + index).toUInt16.toNat = (cell.toNat + index.toNat) % 256 := by
  rw [UInt8.toNat_toUInt16, UInt8.toNat_add]

lemma toNat_indexed (base : UInt16) (index : UInt8) :
    (base + index.toUInt16).toNat = (base.toNat + index.toNat) % 65536 := by
  rw [UInt16.toNat_add, UInt8.toNat_toUInt16]

/-- Indexing a full address: the operand, and whether it left the page. -/
lemma indexed_names {s : Surroundings} {mode : Mode} {base : UInt16} {index : UInt8}
    (address : s.address? mode = some ((base.toNat + index.toNat) % 65536))
    (indexing : s.indexing? mode = some (base.toNat, index.toNat)) :
    s.Names mode (Located.indexed base index).operand ∧
      (Located.indexed base index).crossedPage = s.crosses mode := by
  constructor
  · rw [Located.indexed, Surroundings.Names, address, toNat_indexed]
  · have page := samePage_iff base (base + index.toUInt16)
    rw [toNat_indexed] at page
    rw [Surroundings.crosses, indexing, Located.indexed, Option.any_some, Bool.eq_iff_iff]
    simp [← page]

/-- A branch counts from the instruction behind it. -/
lemma toNat_branchTarget (offset : UInt8) :
    (p.pc + 2 + signExtend offset).toNat =
      ((p.pc.toNat + 2 + signed offset.toNat) % 65536).toNat := by
  have two : UInt16.toNat 2 = 2 := rfl
  rw [toNat_add_signExtend, UInt16.toNat_add, two]
  omega

/-- The processor finds the operand that the rules name, and notices when indexing leaves a
page. -/
theorem locate_names (mode : Mode) :
    (p.surroundings ram).Names mode ((p.locate mode).run ram).1.operand ∧
      ((p.locate mode).run ram).1.crossedPage = (p.surroundings ram).crosses mode := by
  have byte := p.surroundings_operandByte ram
  have word := p.surroundings_operandWord ram
  -- Each mode reads its own bytes; what it makes of them is one of the lemmas above.
  cases mode with
  | implicit => exact ⟨⟨.inl rfl, rfl⟩, rfl⟩
  | accumulator => exact ⟨⟨.inr rfl, rfl⟩, rfl⟩
  | immediate => exact ⟨⟨rfl, byte.symm⟩, rfl⟩
  | zeroPage =>
    refine ⟨congrArg some ?_, rfl⟩
    rw [byte]
    exact (UInt8.toNat_toUInt16 _).symm
  | zeroPageX =>
    refine ⟨congrArg some ?_, rfl⟩
    rw [byte]
    exact (toNat_zeroPageIndexed _ p.x).symm
  | zeroPageY =>
    refine ⟨congrArg some ?_, rfl⟩
    rw [byte]
    exact (toNat_zeroPageIndexed _ p.y).symm
  | relative =>
    refine ⟨congrArg some ?_, rfl⟩
    rw [byte]
    exact (p.toNat_branchTarget _).symm
  | absolute => exact ⟨congrArg some word, rfl⟩
  | absoluteX =>
    refine indexed_names ?_ ?_
    · rw [Surroundings.address?, word]
      rfl
    · rw [Surroundings.indexing?, word]
      rfl
  | absoluteY =>
    refine indexed_names ?_ ?_
    · rw [Surroundings.address?, word]
      rfl
    · rw [Surroundings.indexing?, word]
      rfl
  | indirect =>
    refine ⟨congrArg some ?_, rfl⟩
    rw [word]
    exact p.surroundings_pageWord ram _
  | indirectX =>
    refine ⟨congrArg some (p.surroundings_zeroPageWord ram ?_), rfl⟩
    rw [byte]
    exact (UInt8.toNat_add _ p.x).symm
  | indirectY =>
    have pointer : (p.surroundings ram).operandByte % 256 = (ram.peek (p.pc + 1)).toNat := by
      rw [byte]
      exact Nat.mod_eq_of_lt (UInt8.toNat_lt _)
    have base := p.surroundings_zeroPageWord ram pointer
    refine indexed_names ?_ ?_
    · rw [Surroundings.address?, base]
      rfl
    · rw [Surroundings.indexing?, base]
      rfl

/-- Locating an operand changes no byte of memory and logs no write. -/
lemma locate_cells (mode : Mode) :
    ((p.locate mode).run ram).2.cells = ram.cells ∧
      ((p.locate mode).run ram).2.writeLog = ram.writeLog := by
  cases mode <;> exact ⟨rfl, rfl⟩

end Processor

end SidScore
