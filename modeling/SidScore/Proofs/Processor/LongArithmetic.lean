import SidScore.Proofs.Processor.Fetching
import SidScore.Proofs.Processor.LongNumbers

/-!
# Long additions and subtractions

A program adds or subtracts long numbers byte by byte, from the lowest up, and lets the carry flag
take the carry from one byte to the next.  Between two additions it may do what it likes, as long as
it leaves the carry alone, and the bytes may lie anywhere; so a long addition is told by the
machines that stand before its `ADC`s, a `Machine.CarryChain`, each of which finds the carry that
the one before it left.

What such a chain leaves is the exact sum or difference, in two's complement as well: the result of
all bytes, the carry behind the last one, and its overflow.  In decimal mode it is so for bytes that
hold decimal digits.
-/

namespace SidScore

/-! ## A byte at a time -/

/-- What an instruction makes of an operand that it reads. -/
lemma Processor.run_consume {M : Type} [Bus M] (p : Processor) (o : Operand)
    (update : UInt8 → Processor) (memory : M) :
    ((p.consume o update).run memory).1 = .continued (update ((o.load p).run memory).1) := by
  rw [consume, BusProgram.run_bind]
  rfl

namespace Machine

variable {M : Type} [Bus M]

section Steps

variable {machine : Machine M}

/-- The byte that the next instruction finds as its operand. -/
def operandByte (machine : Machine M) : UInt8 :=
  ((machine.located.1.operand.load (machine.ready machine.located.1.crossedPage)).run
    machine.located.2).1

lemma step_consumes (executable : machine.next.isExecutable = true) {update : UInt8 → Processor}
    (h : machine.execution = (machine.ready machine.located.1.crossedPage).consume
      machine.located.1.operand update) :
    machine.step.2.cpu = update machine.operandByte := by
  rw [step_eq_execute executable, h, Processor.run_consume]
  rfl

/-- The step leaves a result byte in the accumulator, and the flags that go with it. -/
def Accumulates (machine : Machine M) (result : ByteResult) : Prop :=
  machine.step.2.cpu.a = result.1 ∧ machine.step.2.cpu.flags = result.2

lemma step_add (h : machine.next = .adc) :
    machine.Accumulates (machine.cpu.flags.add machine.cpu.a machine.operandByte) := by
  have executable : machine.next.isExecutable = true := by rw [h]; rfl
  rw [Accumulates, step_consumes executable (by rw [execution, h]; rfl)]
  exact ⟨rfl, rfl⟩

lemma step_subtract (h : machine.next = .sbc) :
    machine.Accumulates (machine.cpu.flags.subtract machine.cpu.a machine.operandByte) := by
  have executable : machine.next.isExecutable = true := by rw [h]; rfl
  rw [Accumulates, step_consumes executable (by rw [execution, h]; rfl)]
  exact ⟨rfl, rfl⟩

lemma step_compare (h : machine.next = .cmp) :
    machine.step.2.cpu.flags = machine.cpu.flags.compare machine.cpu.a machine.operandByte := by
  have executable : machine.next.isExecutable = true := by rw [h]; rfl
  rw [step_consumes executable (by rw [execution, h]; rfl)]
  rfl

end Steps

/-! ## Chains -/

section Chains

variable (machines : List (Machine M)) (digit : UInt8 → ℕ)

/-- The bytes in the accumulators. -/
def accumulators : List UInt8 :=
  machines.map (·.cpu.a)

/-- The operand bytes. -/
def operands : List UInt8 :=
  machines.map operandByte

/-- The bytes that are left in the accumulators. -/
def results : List UInt8 :=
  machines.map (·.step.2.cpu.a)

/-- The digits of the three lists, column by column. -/
lemma map_digits :
    (accumulators machines).map digit = machines.map (fun machine => digit machine.cpu.a) ∧
      (operands machines).map digit = machines.map (fun machine => digit machine.operandByte) ∧
      (results machines).map digit = machines.map fun machine => digit machine.step.2.cpu.a :=
  ⟨List.map_map, List.map_map, List.map_map⟩

/-- The flags behind the last instruction. -/
def flagsAfter (h : machines ≠ []) : Flags :=
  (machines.getLast h).step.2.cpu.flags

/-- Machines that stand before the same instruction, in one mode, each with the carry that the
instruction before it left. -/
structure CarryChain (mnemonic : Mnemonic) (decimal carry : Bool) : Prop where
  nonempty : machines ≠ []
  next : ∀ machine ∈ machines, machine.next = mnemonic
  mode : ∀ machine ∈ machines, machine.cpu.flags.decimal = decimal
  first : (machines.head nonempty).cpu.flags.carry = carry
  linked : Linked (·.cpu.flags.carry) (·.step.2.cpu.flags.carry) machines

/-- The results are the sum of two numbers and a carry, as far as the bytes go; the last carry says
whether they go far enough. -/
structure LeavesSum (base : ℕ) (number : List UInt8 → ℕ) (carry : Bool) (h : machines ≠ []) :
    Prop where
  result : number (results machines) =
    (number (accumulators machines) + number (operands machines) + carry.toNat) %
      base ^ machines.length
  carry : (flagsAfter machines h).carry = true ↔ base ^ machines.length ≤
    number (accumulators machines) + number (operands machines) + carry.toNat

/-- The results are the difference of two numbers, and one less without a carry coming in; the last
carry says whether the difference is one of numbers. -/
structure LeavesDifference (base : ℕ) (number : List UInt8 → ℕ) (carry : Bool) (h : machines ≠ []) :
    Prop where
  result : (number (results machines) : ℤ) =
    (number (accumulators machines) - number (operands machines) - (1 - carry.toNat)) %
      base ^ machines.length
  carry : (flagsAfter machines h).carry = true ↔
    number (operands machines) + (1 - carry.toNat) ≤ number (accumulators machines)

variable {machines} {digit} {decimal carry : Bool} {mnemonic : Mnemonic} {base : ℕ}

/-- Where every byte, with its carry, is the sum of two bytes, the results are the sum. -/
lemma CarryChain.leavesSum (chain : CarryChain machines mnemonic decimal carry)
    (hbase : 1 < base) (bound : ∀ machine ∈ machines, digit machine.step.2.cpu.a < base)
    (column : ∀ machine ∈ machines,
      digit machine.cpu.a + digit machine.operandByte + machine.cpu.flags.carryIn =
        digit machine.step.2.cpu.a + base * machine.step.2.cpu.flags.carryIn) :
    LeavesSum machines base (fun bytes => Nat.ofDigits base (bytes.map digit)) carry
      chain.nonempty := by
  have sum := ofDigits_columns chain.nonempty (chain.linked.map Bool.toNat) column
  rw [chain.first] at sum
  obtain ⟨result, out⟩ := eq_mod_of_completed sum (ofDigits_map_lt hbase bound)
  obtain ⟨accumulators_eq, operands_eq, results_eq⟩ := map_digits machines digit
  refine ⟨?_, ?_⟩
  · rw [accumulators_eq, operands_eq, results_eq]
    exact result
  · rw [accumulators_eq, operands_eq]
    exact out

/-- Where every byte, with its borrow, is the difference of two bytes, the results are the
difference. -/
lemma CarryChain.leavesDifference (chain : CarryChain machines mnemonic decimal carry)
    (hbase : 1 < base) (bound : ∀ machine ∈ machines, digit machine.step.2.cpu.a < base)
    (column : ∀ machine ∈ machines,
      digit machine.step.2.cpu.a + digit machine.operandByte + (1 - machine.cpu.flags.carryIn) =
        digit machine.cpu.a + base * (1 - machine.step.2.cpu.flags.carryIn)) :
    LeavesDifference machines base (fun bytes => Nat.ofDigits base (bytes.map digit)) carry
      chain.nonempty := by
  have sum := ofDigits_columns chain.nonempty (chain.linked.map fun c => 1 - c.toNat) column
  rw [chain.first] at sum
  obtain ⟨result, out⟩ := eq_emod_of_borrowed sum (ofDigits_map_lt hbase bound)
  obtain ⟨accumulators_eq, operands_eq, results_eq⟩ := map_digits machines digit
  refine ⟨?_, ?_⟩
  · rw [accumulators_eq, operands_eq, results_eq, ← Nat.cast_pow]
    exact result
  · rw [accumulators_eq, operands_eq]
    exact out

/-! ### Binary -/

/-- Where every byte is a binary sum, the last overflow is that of the number. -/
lemma CarryChain.overflow_iff (chain : CarryChain machines mnemonic decimal carry)
    {value : Machine M → UInt8} (stepped : ∀ machine ∈ machines,
      machine.Accumulates (machine.cpu.flags.addBinary machine.cpu.a (value machine))) :
    (flagsAfter machines chain.nonempty).overflow = true ↔ Overflows machines.length
      (signedLong (accumulators machines) + signedLong (machines.map value) + carry.toNat) := by
  have column (machine : Machine M) (mem : machine ∈ machines) :
      machine.cpu.a.toNat + (value machine).toNat + machine.cpu.flags.carryIn =
          machine.step.2.cpu.a.toNat + 256 * machine.step.2.cpu.flags.carryIn ∧
        machine.step.2.cpu.a.toNat < 256 := by
    obtain ⟨a, flags⟩ := stepped machine mem
    rw [a, flags]
    exact ⟨Flags.addBinary_exact _ _ _, UInt8.toNat_lt _⟩
  have overflows := overflows_columns chain.nonempty (chain.linked.map Bool.toNat) column
  rw [chain.first] at overflows
  refine Iff.trans ?_ overflows.symm
  rw [flagsAfter, (stepped _ (List.getLast_mem chain.nonempty)).2]
  exact Flags.overflow_addBinary_iff _ _ _

lemma CarryChain.binarySum (chain : CarryChain machines .adc false carry) :
    LeavesSum machines 256 longNumber carry chain.nonempty ∧
      ((flagsAfter machines chain.nonempty).overflow = true ↔ Overflows machines.length
        (signedLong (accumulators machines) + signedLong (operands machines) + carry.toNat)) := by
  have stepped (machine : Machine M) (mem : machine ∈ machines) : machine.Accumulates
      (machine.cpu.flags.addBinary machine.cpu.a machine.operandByte) := by
    rw [← Flags.add_of_binary _ (chain.mode machine mem)]
    exact step_add (chain.next machine mem)
  refine ⟨?_, chain.overflow_iff stepped⟩
  refine chain.leavesSum (by decide) (fun machine _ => machine.step.2.cpu.a.toNat_lt) ?_
  intro machine mem
  obtain ⟨a, flags⟩ := stepped machine mem
  rw [a, flags]
  exact Flags.addBinary_exact _ _ _

lemma CarryChain.binaryDifference (chain : CarryChain machines .sbc false carry) :
    LeavesDifference machines 256 longNumber carry chain.nonempty ∧
      ((flagsAfter machines chain.nonempty).overflow = true ↔ Overflows machines.length
        (signedLong (accumulators machines) - signedLong (operands machines) -
          (1 - carry.toNat))) := by
  have stepped (machine : Machine M) (mem : machine ∈ machines) : machine.Accumulates
      (machine.cpu.flags.addBinary machine.cpu.a (~~~machine.operandByte)) := by
    rw [← Flags.subtract_of_binary _ (chain.mode machine mem)]
    exact step_subtract (chain.next machine mem)
  constructor
  · refine chain.leavesDifference (by decide) (fun machine _ => machine.step.2.cpu.a.toNat_lt) ?_
    intro machine mem
    obtain ⟨a, flags⟩ := stepped machine mem
    rw [a, flags]
    exact Flags.subtractBinary_exact _ _ _
  · -- For the overflow the difference is a sum with the complement.
    have some_operand : operands machines ≠ [] := List.map_eq_nil_iff.not.mpr chain.nonempty
    have complement : signedLong (machines.map fun machine => ~~~machine.operandByte) =
        -1 - signedLong (operands machines) := by
      rw [← signedLong_complement some_operand, operands, List.map_map]
      rfl
    have total : signedLong (accumulators machines) + (-1 - signedLong (operands machines)) +
        carry.toNat = signedLong (accumulators machines) - signedLong (operands machines) -
          (1 - carry.toNat) := by
      ring
    rw [← total, ← complement]
    exact chain.overflow_iff stepped

/-! ### Decimal -/

variable (machines) in
/-- All bytes of both numbers hold decimal digits. -/
def HoldDigits : Prop :=
  ∀ machine ∈ machines, IsDecimal machine.cpu.a ∧ IsDecimal machine.operandByte

lemma CarryChain.decimalSum (chain : CarryChain machines .adc true carry)
    (digits : HoldDigits machines) :
    (∀ byte ∈ results machines, IsDecimal byte) ∧
      LeavesSum machines 100 decimalLong carry chain.nonempty := by
  have exact_column (machine : Machine M) (mem : machine ∈ machines) :
      IsDecimal machine.step.2.cpu.a ∧
        twoDigits machine.cpu.a + twoDigits machine.operandByte + machine.cpu.flags.carryIn =
          twoDigits machine.step.2.cpu.a + 100 * machine.step.2.cpu.flags.carryIn := by
    obtain ⟨ha, hvalue⟩ := digits machine mem
    obtain ⟨a, flags⟩ := step_add (chain.next machine mem)
    rw [a, flags, Flags.add_of_decimal _ (chain.mode machine mem)]
    exact Flags.addDecimal_exact _ ha hvalue
  constructor
  · intro byte mem
    obtain ⟨machine, hmachine, rfl⟩ := List.mem_map.mp mem
    exact (exact_column machine hmachine).1
  · exact chain.leavesSum (by decide) (fun machine mem => (exact_column machine mem).1.lt)
      fun machine mem => (exact_column machine mem).2

lemma CarryChain.decimalDifference (chain : CarryChain machines .sbc true carry)
    (digits : HoldDigits machines) :
    (∀ byte ∈ results machines, IsDecimal byte) ∧
      LeavesDifference machines 100 decimalLong carry chain.nonempty := by
  have exact_column (machine : Machine M) (mem : machine ∈ machines) :
      IsDecimal machine.step.2.cpu.a ∧
        twoDigits machine.step.2.cpu.a + twoDigits machine.operandByte +
            (1 - machine.cpu.flags.carryIn) =
          twoDigits machine.cpu.a + 100 * (1 - machine.step.2.cpu.flags.carryIn) := by
    obtain ⟨ha, hvalue⟩ := digits machine mem
    obtain ⟨a, flags⟩ := step_subtract (chain.next machine mem)
    rw [a, flags, Flags.subtract_of_decimal _ (chain.mode machine mem)]
    exact Flags.subtractDecimal_exact _ ha hvalue
  constructor
  · intro byte mem
    obtain ⟨machine, hmachine, rfl⟩ := List.mem_map.mp mem
    exact (exact_column machine hmachine).1
  · exact chain.leavesDifference (by decide) (fun machine mem => (exact_column machine mem).1.lt)
      fun machine mem => (exact_column machine mem).2

end Chains

/-- Two machines have the same bytes for their next instruction. -/
structure SameBytes (machine other : Machine M) : Prop where
  a : machine.cpu.a = other.cpu.a
  operand : machine.operandByte = other.operandByte

/-- Chains of additions and subtractions compute exactly, on a bus. -/
structure ExactArithmetic (M : Type) [Bus M] : Prop where
  /-- Binary sums, with overflow in two's complement. -/
  sum : ∀ {machines : List (Machine M)} {carry : Bool}
    (chain : CarryChain machines .adc false carry),
    LeavesSum machines 256 longNumber carry chain.nonempty ∧
      ((flagsAfter machines chain.nonempty).overflow = true ↔ Overflows machines.length
        (signedLong (accumulators machines) + signedLong (operands machines) + carry.toNat))
  /-- Binary differences. -/
  difference : ∀ {machines : List (Machine M)} {carry : Bool}
    (chain : CarryChain machines .sbc false carry),
    LeavesDifference machines 256 longNumber carry chain.nonempty ∧
      ((flagsAfter machines chain.nonempty).overflow = true ↔ Overflows machines.length
        (signedLong (accumulators machines) - signedLong (operands machines) - (1 - carry.toNat)))
  /-- Sums of numbers in decimal digits. -/
  decimalSum : ∀ {machines : List (Machine M)} {carry : Bool}
    (chain : CarryChain machines .adc true carry), HoldDigits machines →
    (∀ byte ∈ results machines, IsDecimal byte) ∧
      LeavesSum machines 100 decimalLong carry chain.nonempty
  /-- Differences of numbers in decimal digits. -/
  decimalDifference : ∀ {machines : List (Machine M)} {carry : Bool}
    (chain : CarryChain machines .sbc true carry), HoldDigits machines →
    (∀ byte ∈ results machines, IsDecimal byte) ∧
      LeavesDifference machines 100 decimalLong carry chain.nonempty
  /-- The flags of a subtraction are the same in both modes, whatever the bytes. -/
  modes : ∀ machine other : Machine M, machine.next = .sbc → other.next = .sbc →
    machine.SameBytes other → machine.cpu.flags.carry = other.cpu.flags.carry →
    machine.step.2.cpu.flags.SameArithmetic other.step.2.cpu.flags
  /-- With the carry set they are those of a comparison. -/
  comparison : ∀ machine other : Machine M, machine.next = .sbc → other.next = .cmp →
    machine.SameBytes other → machine.cpu.flags.carry = true →
    machine.step.2.cpu.flags.SameComparison other.step.2.cpu.flags

/-! ### Every number -/

/-- The bytes in the accumulators, each with its operand, are the given pairs. -/
def WorksOn (machines : List (Machine M)) (pairs : List (UInt8 × UInt8)) : Prop :=
  accumulators machines = pairs.map Prod.fst ∧ operands machines = pairs.map Prod.snd

/-- An instruction at `$0200` that takes the byte behind it, with chosen accumulator and flags. -/
def immediateAt (code a value : UInt8) (flags : Flags) : Machine Ram where
  cpu := { Processor.powerOn 0x0200 with a, flags }
  bus := Ram.empty.load 0x0200 [code, value]

lemma fetched_immediateAt (code a value : UInt8) (flags : Flags) :
    (immediateAt code a value flags).fetched = .decode code := by
  have byte : (immediateAt code a value flags).bus.peek 0x0200 = code := by
    simp [immediateAt, Ram.load]
  exact congrArg Opcode.decode byte

lemma operandByte_immediateAt {code a value : UInt8} {flags : Flags}
    (mode : (Opcode.decode code).mode = .immediate) :
    (immediateAt code a value flags).operandByte = value := by
  have byte : (immediateAt code a value flags).bus.peek 0x0201 = value := by
    simp [immediateAt, Ram.load]
  rw [operandByte, located, fetched_immediateAt, mode]
  exact byte

/-- A chain goes on below. -/
lemma CarryChain.cons {machine : Machine M} {machines : List (Machine M)} {mnemonic : Mnemonic}
    {decimal : Bool} (next : machine.next = mnemonic) (mode : machine.cpu.flags.decimal = decimal)
    (chain : CarryChain machines mnemonic decimal machine.step.2.cpu.flags.carry) :
    CarryChain (machine :: machines) mnemonic decimal machine.cpu.flags.carry where
  nonempty := List.cons_ne_nil _ _
  next := List.forall_mem_cons.mpr ⟨next, chain.next⟩
  mode := List.forall_mem_cons.mpr ⟨mode, chain.mode⟩
  first := rfl
  linked := (linked_cons_iff chain.nonempty).mpr ⟨chain.first, chain.linked⟩

lemma CarryChain.single {machine : Machine M} {mnemonic : Mnemonic} {decimal : Bool}
    (next : machine.next = mnemonic) (mode : machine.cpu.flags.decimal = decimal) :
    CarryChain [machine] mnemonic decimal machine.cpu.flags.carry where
  nonempty := List.cons_ne_nil _ _
  next := by simpa using next
  mode := by simpa using mode
  first := rfl
  linked := List.isChain_singleton _

/-- Every two numbers of one length stand before a chain of an instruction that has an immediate
form. -/
lemma exists_carryChain {code : UInt8} {mnemonic : Mnemonic}
    (row : Opcode.decode code = .plain mnemonic .immediate 2) (decimal carry : Bool)
    (pairs : List (UInt8 × UInt8)) (h : pairs ≠ []) :
    ∃ machines : List (Machine Ram), CarryChain machines mnemonic decimal carry ∧
      WorksOn machines pairs := by
  have mode : (Opcode.decode code).mode = .immediate := by rw [row]; rfl
  have next (a value : UInt8) (flags : Flags) :
      (immediateAt code a value flags).next = mnemonic := by
    rw [Machine.next, fetched_immediateAt, row]
    rfl
  induction pairs, h using List.recNeNil generalizing carry with
  | singleton pair =>
    refine ⟨[immediateAt code pair.1 pair.2 { Flags.powerOn with decimal, carry }], ?_, rfl, ?_⟩
    · exact .single (next _ _ _) rfl
    · rw [operands, List.map_singleton, operandByte_immediateAt mode]
      rfl
  | cons pair rest nonempty ih =>
    set machine := immediateAt code pair.1 pair.2 { Flags.powerOn with decimal, carry }
    obtain ⟨machines, chain, firsts, seconds⟩ := ih machine.step.2.cpu.flags.carry
    refine ⟨machine :: machines, .cons (next _ _ _) rfl chain, ?_, ?_⟩
    · rw [accumulators, List.map_cons, ← accumulators, firsts]
      rfl
    · rw [operands, List.map_cons, operandByte_immediateAt mode, ← operands, seconds]
      rfl

lemma exactArithmetic (M : Type) [Bus M] : ExactArithmetic M where
  sum chain := chain.binarySum
  difference chain := chain.binaryDifference
  decimalSum chain digits := chain.decimalSum digits
  decimalDifference chain digits := chain.decimalDifference digits
  modes machine other subtracts alike bytes carry := by
    rw [(step_subtract subtracts).2, (step_subtract alike).2, bytes.a, bytes.operand]
    exact Flags.subtract_sameArithmetic _ _ _ carry
  comparison machine other subtracts compares bytes carry := by
    rw [(step_subtract subtracts).2, step_compare compares, bytes.a, bytes.operand]
    exact Flags.subtract_sameComparison _ _ _ _ carry

/-- **Chained additions and subtractions are exact**, for numbers of any length, on every bus and
from every state.  There is a chain for every two numbers of one length, either mode and either
carry. -/
theorem longArithmetic_exact :
    (∀ (M : Type) [Bus M], ExactArithmetic M) ∧
      ∀ pairs : List (UInt8 × UInt8), pairs ≠ [] → ∀ decimal carry : Bool,
        (∃ machines : List (Machine Ram),
          CarryChain machines .adc decimal carry ∧ WorksOn machines pairs) ∧
        ∃ machines : List (Machine Ram),
          CarryChain machines .sbc decimal carry ∧ WorksOn machines pairs := by
  refine ⟨fun M _ => exactArithmetic M, fun pairs nonempty decimal carry => ⟨?_, ?_⟩⟩
  · have row : Opcode.decode 0x69 = .plain .adc .immediate 2 := by decide +kernel
    exact exists_carryChain row decimal carry pairs nonempty
  · have row : Opcode.decode 0xE9 = .plain .sbc .immediate 2 := by decide +kernel
    exact exists_carryChain row decimal carry pairs nonempty

/-- `SED; CLC; LDA #$58; ADC #$46; TAX; LDA #$12; ADC #$99` at `$0200`: the decimal sum of 1258
and 9946, its lower byte saved in `X`. -/
def decimalProgram : Machine Ram where
  cpu := Processor.powerOn 0x0200
  bus := Ram.empty.load 0x0200
    [0xF8, 0x18, 0xA9, 0x58, 0x69, 0x46, 0xAA, 0xA9, 0x12, 0x69, 0x99]

namespace decimalProgram

/-- The machines before its two additions. -/
def additions : List (Machine Ram) :=
  [decimalProgram.after 3, decimalProgram.after 6]

/-- The theorem there: the two bytes hold 1204, and the carry stands for the ten thousand. -/
theorem sum_exact : CarryChain additions .adc true false ∧ HoldDigits additions ∧
    decimalLong (results additions) = 1204 ∧ (decimalProgram.after 7).cpu.flags.carry = true ∧
      ∃ machines : List (Machine Ram),
        CarryChain machines .sbc true true ∧ WorksOn machines [(0x04, 0x46), (0x12, 0x99)] := by
  have found : ∀ machine ∈ additions, machine.next = .adc ∧ machine.cpu.flags.decimal = true ∧
      IsDecimal machine.cpu.a ∧ IsDecimal machine.operandByte := by
    decide +kernel
  have carries : (decimalProgram.after 3).cpu.flags.carry = false ∧
      (decimalProgram.after 6).cpu.flags.carry =
        (decimalProgram.after 3).step.2.cpu.flags.carry := by
    decide +kernel
  have numbers : decimalLong (accumulators additions) = 1258 ∧
      decimalLong (operands additions) = 9946 := by
    decide +kernel
  have first : additions.head (List.cons_ne_nil _ _) = decimalProgram.after 3 := rfl
  have chain : CarryChain additions .adc true false :=
    { nonempty := List.cons_ne_nil _ _
      next := fun machine mem => (found machine mem).1
      mode := fun machine mem => (found machine mem).2.1
      first := (congrArg (·.cpu.flags.carry) first).trans carries.1
      linked := List.isChain_pair.mpr carries.2 }
  have digits : HoldDigits additions := fun machine mem => (found machine mem).2.2
  have last : additions.getLast chain.nonempty = decimalProgram.after 6 := rfl
  obtain ⟨exact_arithmetic, chains⟩ := longArithmetic_exact
  obtain ⟨-, result, carry⟩ := (exact_arithmetic Ram).decimalSum chain digits
  rw [numbers.1, numbers.2] at result carry
  rw [flagsAfter, last] at carry
  refine ⟨chain, digits, result, ?_, (chains _ (List.cons_ne_nil _ _) true true).2⟩
  rw [after_succ]
  exact carry.mpr (by decide)

end decimalProgram

end Machine

end SidScore
