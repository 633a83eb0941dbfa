import SidScore.Proofs.Memory.Cells
import SidScore.Proofs.Word

/-!
# The banked memory is a last-write-wins store

Under every sequence of operations the banked memory behaves like a table from cells to bytes in
which the latest entry counts.  The table side is written here without the memory: `Fitting` is
what is put behind the bus, `Fitting.overlay?` and `Fitting.place` say what an address means under
a control byte, and `Fitting.history` lists which byte was put into which cell, in order.  Nothing
there looks at a `BankedMemory`, except that the chips' incomplete decoding is the memory's own
`canonical` and `hardwired`.

The control byte is a cell of the table itself, so the history of a longer sequence is read off the
history of a shorter one: the latest entry for `Cell.control` decides where the next write goes.

`Reflects` is the invariant that carries the proof.  It says that every cell which an address can
lead to holds its latest entry; that it survives one operation is `Reflects.apply`.
-/

namespace SidScore

open BankedMemory

/-! ## Configurations, from the table -/

/-- BASIC shows at `$A000`–`$BFFF`. -/
def showsBasic (control : UInt8) : Bool := control.toNat % 8 ∈ [3, 7]

/-- The KERNAL shows at `$E000`–`$FFFF`. -/
def showsKernal (control : UInt8) : Bool := control.toNat % 8 ∈ [2, 3, 6, 7]

/-- The chips' registers show at `$D000`–`$DFFF`. -/
def showsRegisters (control : UInt8) : Bool := control.toNat % 8 ∈ [5, 6, 7]

/-- The character ROM shows at `$D000`–`$DFFF`. -/
def showsCharRom (control : UInt8) : Bool := control.toNat % 8 ∈ [1, 2, 3]

/-- The control byte after the registers were made to show: rows 1–3 become 5–7, and the two rows
that show memory alone become 5. -/
def controlWithRegisters (control : UInt8) : UInt8 :=
  let row := control.toNat % 8
  let shown := if row = 0 ∨ row = 4 then 5 else if row < 4 then row + 4 else row
  UInt8.ofNat (control.toNat - row + shown)

/-- The bits of a control byte that select its row. -/
lemma and_seven_eq (control : UInt8) : control &&& 0x07 = UInt8.ofNat (control.toNat % 8) := by
  apply UInt8.toNat_inj.1
  have mask : (0x07 : UInt8).toNat = 2 ^ 3 - 1 := rfl
  rw [UInt8.toNat_and, mask, Nat.and_two_pow_sub_one_eq_mod, UInt8.toNat_ofNat']
  omega

/-- The decoder of control bytes follows the table. -/
lemma bankState_ofControl_eq (control : UInt8) :
    BankState.ofControl control =
      ⟨showsBasic control, showsKernal control, showsRegisters control, showsCharRom control⟩ := by
  have bound : control.toNat % 8 < 8 := Nat.mod_lt _ (by decide)
  unfold BankState.ofControl showsBasic showsKernal showsRegisters showsCharRom
  rw [and_seven_eq]
  generalize control.toNat % 8 = row at *
  interval_cases row <;> rfl

lemma controlShowingIo_eq (banking : Banking) :
    banking.controlShowingIo =
      if showsRegisters banking.control then banking.control
      else controlWithRegisters banking.control := by
  exact forall_byte (P := fun control => (⟨0, control⟩ : Banking).controlShowingIo =
    if showsRegisters control then control else controlWithRegisters control)
    (by decide +kernel) banking.control

/-- No row shows both the registers and the character ROM. -/
lemma showsCharRom_eq_false {control : UInt8} (h : showsRegisters control) :
    showsCharRom control = false := by
  unfold showsRegisters showsCharRom at *
  generalize control.toNat % 8 = row at *
  simp only [List.mem_cons, List.not_mem_nil, or_false, decide_eq_true_eq] at h
  rcases h with rfl | rfl | rfl <;> rfl

/-! ## Operations -/

/-- What can be done to the memory. -/
inductive MemoryOperation where
  /-- A write of the processor. -/
  | write (address : UInt16) (value : UInt8)
  /-- A read of the processor. -/
  | read (address : UInt16)
  /-- A look without an access. -/
  | peek (address : UInt16)
  /-- The control byte is set without an access. -/
  | setControl (value : UInt8)
  /-- The registers are made to show. -/
  | showIo
  deriving Repr, DecidableEq

namespace BankedMemory

/-- The memory after an operation. -/
def apply (memory : BankedMemory) : MemoryOperation → BankedMemory
  | .write address value => Bus.write memory address value
  | .read address => (Bus.read memory address).2
  | .peek address => (Bus.peek memory address).2
  | .setControl value => memory.setControl value
  | .showIo => memory.showIo

/-- The memory after a sequence of operations. -/
def perform (memory : BankedMemory) (operations : List MemoryOperation) : BankedMemory :=
  operations.foldl apply memory

end BankedMemory

/-! ## The table -/

/-- Which byte was put into which cell, in order. -/
abbrev CellHistory := List (Cell × UInt8)

namespace CellHistory

/-- The byte in a cell before anything was put into it. -/
def initial : Cell → UInt8
  | .direction => 0x2F
  | .control => 0x37
  | .ram _ | .register _ => 0
  | .unconnected => 0xFF
  | .rom value => value

/-- The byte that was put into a cell last. -/
def last (history : CellHistory) (cell : Cell) : UInt8 :=
  if cell.keeps then
    ((history.filter (·.1 = cell)).map Prod.snd).getLastD (initial cell)
  else initial cell

end CellHistory

/-- What is put behind the bus once and for all. -/
structure Fitting where
  /-- BASIC, if an image is supplied. -/
  basicRom : Option SystemRom
  /-- The KERNAL, if an image is supplied. -/
  kernalRom : Option SystemRom
  /-- The character ROM, if an image is supplied. -/
  charRom : Option CharRom
  /-- The base addresses of the sound chips. -/
  sidBases : List UInt16

namespace Fitting

/-- The memory after power-on. -/
def powerOn (fitting : Fitting) : BankedMemory :=
  { BankedMemory.powerOn.setSidBases fitting.sidBases with
    basicRom := fitting.basicRom
    kernalRom := fitting.kernalRom
    charRom := fitting.charRom }

/-- The byte of a ROM that covers an address under a control byte. -/
def overlay? (fitting : Fitting) (control : UInt8) (address : UInt16) : Option UInt8 :=
  let a := address.toNat
  if a < 0xA000 then none
  else if a < 0xC000 then
    if showsBasic control then fitting.basicRom.bind fun image => image[a - 0xA000]? else none
  else if a < 0xD000 then none
  else if a < 0xE000 then
    if showsCharRom control then fitting.charRom.bind fun image => image[a - 0xD000]? else none
  else if showsKernal control then fitting.kernalRom.bind fun image => image[a - 0xE000]?
  else none

/-- The cell that an address stands for under a control byte, ROMs apart. -/
def place (fitting : Fitting) (control : UInt8) (address : UInt16) : Cell :=
  if address = 0 then .direction
  else if address = 1 then .control
  else if 0xD000 ≤ address.toNat ∧ address.toNat ≤ 0xDFFF ∧ showsRegisters control then
    if hardwired (fitting.powerOn.canonical address) then .unconnected
    else .register (fitting.powerOn.canonical address)
  else .ram address

/-- The cell that a reader of an address finds under a control byte. -/
def cellAt (fitting : Fitting) (control : UInt8) (address : UInt16) : Cell :=
  (fitting.overlay? control address).elim (fitting.place control address) .rom

/-- What an operation puts into cells. -/
def puts (fitting : Fitting) (control : UInt8) : MemoryOperation → CellHistory
  | .write address value => [(fitting.place control address, value)]
  | .read _ | .peek _ => []
  | .setControl value => [(.control, value)]
  | .showIo =>
    if showsRegisters control then [] else [(.control, controlWithRegisters control)]

/-- A history with what one more operation puts into cells. -/
def extend (fitting : Fitting) (history : CellHistory) (operation : MemoryOperation) :
    CellHistory :=
  history ++ fitting.puts (history.last .control) operation

/-- What a sequence of operations puts into cells. -/
def history (fitting : Fitting) (operations : List MemoryOperation) : CellHistory :=
  operations.foldl fitting.extend []

/-- The byte that a reader of an address finds after a history. -/
def recalled (fitting : Fitting) (history : CellHistory) (address : UInt16) : UInt8 :=
  history.last (fitting.cellAt (history.last .control) address)

end Fitting

/-! ## The memory reflects the table -/

/-- An address only ever stands for cells that a put can be followed into. -/
lemma place_reachable (fitting : Fitting) (control : UInt8) (address : UInt16) :
    (fitting.place control address).Reachable := by
  unfold Fitting.place
  split_ifs with zero one area wired
  · trivial
  · trivial
  · trivial
  · apply canonical_inRegisterArea
    simp only [InRegisterArea, UInt16.le_iff_toNat_le, UInt16.lt_iff_toNat_lt, UInt16.reduceToNat]
    omega
  · exact ⟨zero, one⟩

lemma CellHistory.last_append (history : CellHistory) (cell other : Cell) (value : UInt8) :
    CellHistory.last (history ++ [(cell, value)]) other =
      if cell = other ∧ cell.keeps then value else history.last other := by
  unfold last
  by_cases same : cell = other
  · subst same
    by_cases keeps : cell.keeps <;> simp [keeps]
  · simp [same]

lemma cellAt_reachable (fitting : Fitting) (control : UInt8) (address : UInt16) :
    (fitting.cellAt control address).Reachable := by
  unfold Fitting.cellAt
  cases fitting.overlay? control address with
  | none => exact place_reachable fitting control address
  | some value => trivial

/-- The memory is fitted out as planned, and every cell that an address can lead to holds its
latest entry. -/
structure Reflects (fitting : Fitting) (memory : BankedMemory) (history : CellHistory) : Prop where
  basicRom : memory.basicRom = fitting.basicRom
  kernalRom : memory.kernalRom = fitting.kernalRom
  charRom : memory.charRom = fitting.charRom
  sidBases : memory.sidBases = fitting.sidBases
  content : ∀ cell : Cell, cell.Reachable → memory.content cell = history.last cell

namespace Reflects

variable {fitting : Fitting} {memory : BankedMemory} {history : CellHistory}

lemma canonical (h : Reflects fitting memory history) :
    memory.canonical = fitting.powerOn.canonical :=
  canonical_congr h.sidBases

lemma bank (h : Reflects fitting memory history) :
    memory.banking.state = BankState.ofControl (history.last .control) := by
  rw [← h.content .control trivial]
  rfl

/-- A fresh memory reflects the empty history. -/
lemma initial (fitting : Fitting) : Reflects fitting fitting.powerOn [] where
  basicRom := rfl
  kernalRom := rfl
  charRom := rfl
  sidBases := rfl
  content cell reachable := by
    cases cell with
    | ram a =>
      have zero : a ≠ 0 ∧ a ≠ 1 := reachable
      change ((Ram.empty.poke 0 _).poke 1 _).peek a = 0
      rw [Ram.peek_poke, Ram.peek_poke, if_neg zero.2.symm, if_neg zero.1.symm, Ram.peek_empty]
    | register r => exact Vector.getElem_replicate (Nat.mod_lt r.toNat (Nat.zero_lt_succ 4095))
    | _ => rfl

/-! ### Where accesses lead -/

/-- A write leads where the table says. -/
lemma target (h : Reflects fitting memory history) (address : UInt16) :
    memory.target address = fitting.place (history.last .control) address := by
  have area (shows : Bool) : (0xD000 ≤ address && address < 0xE000 && shows) = true ↔
      0xD000 ≤ address.toNat ∧ address.toNat ≤ 0xDFFF ∧ shows := by
    simp only [Bool.and_eq_true, decide_eq_true_eq, UInt16.le_iff_toNat_le,
      UInt16.lt_iff_toNat_lt, UInt16.reduceToNat, and_assoc, Nat.lt_succ_iff]
  unfold BankedMemory.target Fitting.place registerCell
  rw [h.canonical, h.bank, bankState_ofControl_eq]
  simp only [area]

/-- A ROM's cell: the byte of the image where it is there and shows, and else the memory under
it. -/
lemma romCell_eq {n : ℕ} (rom : Option (Vector UInt8 (n + 1))) (shows : Bool) {address : UInt16}
    {offset : ℕ} (h : address.toNat % (n + 1) = offset) :
    romCell rom shows address =
      (if shows then rom.bind fun image => image[offset]? else none).elim (.ram address) .rom := by
  subst h
  have inside : address.toNat % (n + 1) < n + 1 := Nat.mod_lt _ n.succ_pos
  cases rom with
  | none => cases shows <;> rfl
  | some image =>
    cases shows with
    | false => rfl
    | true =>
      simp only [romCell, if_true, Option.bind_some, Vector.getElem?_eq_getElem inside,
        Option.elim_some]
      rfl

/-- Inside the register area, while the registers show, an address stands for its register. -/
lemma place_eq_registerCell (h : Reflects fitting memory history) {control : UInt8}
    {address : UInt16} (low : 0xD000 ≤ address.toNat) (high : address.toNat ≤ 0xDFFF)
    (shows : showsRegisters control) :
    fitting.place control address = memory.registerCell address := by
  have zero : address ≠ 0 := by rintro rfl; simp at low
  have one : address ≠ 1 := by rintro rfl; simp at low
  unfold Fitting.place registerCell
  rw [if_neg zero, if_neg one, if_pos ⟨low, high, shows⟩, h.canonical]

/-- Outside the register area, and inside it when no register shows, an address stands for plain
memory. -/
lemma place_eq_ram {fitting : Fitting} {control : UInt8} {address : UInt16}
    (zero : address ≠ 0) (one : address ≠ 1)
    (h : address.toNat < 0xD000 ∨ 0xE000 ≤ address.toNat ∨ showsRegisters control = false) :
    fitting.place control address = .ram address := by
  unfold Fitting.place
  rw [if_neg zero, if_neg one, if_neg]
  rintro ⟨low, high, shows⟩
  simp only [shows, reduceCtorEq, or_false] at h
  omega

/-- A read leads where the table says. -/
lemma source (h : Reflects fitting memory history) (address : UInt16) :
    memory.source address = fitting.cellAt (history.last .control) address := by
  unfold BankedMemory.source Fitting.cellAt Fitting.overlay?
  rw [h.bank, bankState_ofControl_eq, h.basicRom, h.charRom, h.kernalRom]
  generalize history.last .control = control
  by_cases zero : address = 0
  · subst zero
    rfl
  by_cases one : address = 1
  · subst one
    rfl
  simp only [if_neg zero, if_neg one, UInt16.lt_iff_toNat_lt, UInt16.reduceToNat]
  by_cases belowBasic : address.toNat < 0xA000
  · rw [if_pos belowBasic, if_pos belowBasic, place_eq_ram zero one (by omega), Option.elim_none]
  rw [if_neg belowBasic, if_neg belowBasic]
  by_cases inBasic : address.toNat < 0xC000
  · have offset : address.toNat % (8191 + 1) = address.toNat - 0xA000 := by omega
    rw [if_pos inBasic, if_pos inBasic, romCell_eq fitting.basicRom _ offset,
      place_eq_ram zero one (by omega)]
  rw [if_neg inBasic, if_neg inBasic]
  by_cases belowArea : address.toNat < 0xD000
  · rw [if_pos belowArea, if_pos belowArea, place_eq_ram zero one (by omega), Option.elim_none]
  rw [if_neg belowArea, if_neg belowArea]
  by_cases inArea : address.toNat < 0xE000
  · rw [if_pos inArea, if_pos inArea]
    cases registers : showsRegisters control with
    | true =>
      rw [if_pos rfl, showsCharRom_eq_false registers, if_neg Bool.false_ne_true,
        Option.elim_none, h.place_eq_registerCell (by omega) (by omega) registers]
    | false =>
      have offset : address.toNat % (4095 + 1) = address.toNat - 0xD000 := by omega
      rw [if_neg Bool.false_ne_true, romCell_eq fitting.charRom _ offset,
        place_eq_ram zero one (Or.inr (Or.inr registers))]
  · have bound := address.toNat_lt
    have offset : address.toNat % (8191 + 1) = address.toNat - 0xE000 := by omega
    rw [if_neg inArea, if_neg inArea, romCell_eq fitting.kernalRom _ offset,
      place_eq_ram zero one (by omega)]

/-- A read finds what the table recalls. -/
lemma fetch (h : Reflects fitting memory history) (address : UInt16) :
    memory.fetch address = fitting.recalled history address := by
  rw [BankedMemory.fetch, h.source address, Fitting.recalled]
  exact h.content _ (cellAt_reachable fitting _ address)

/-! ### What operations keep -/

/-- Entering a put in the table keeps the memory and the table together. -/
lemma put (h : Reflects fitting memory history) {cell : Cell} (reachable : cell.Reachable)
    (value : UInt8) : Reflects fitting (memory.put cell value) (history ++ [(cell, value)]) where
  basicRom := by cases cell <;> exact h.basicRom
  kernalRom := by cases cell <;> exact h.kernalRom
  charRom := by cases cell <;> exact h.charRom
  sidBases := by cases cell <;> exact h.sidBases
  content other reachable' := by
    rw [content_put memory value reachable reachable', CellHistory.last_append,
      h.content other reachable']

lemma markRead (h : Reflects fitting memory history) (address : UInt16) :
    Reflects fitting (memory.markRead address) history where
  basicRom := h.basicRom
  kernalRom := h.kernalRom
  charRom := h.charRom
  sidBases := h.sidBases
  content cell reachable := by rw [content_markRead, h.content cell reachable]

/-- Both records of a write are kept beside the cells. -/
lemma noteStore (h : Reflects fitting memory history) (address : UInt16) (value : UInt8) :
    Reflects fitting ((memory.observeStore address value).markWritten address) history := by
  rw [observeStore_eq]
  exact
    { basicRom := h.basicRom
      kernalRom := h.kernalRom
      charRom := h.charRom
      sidBases := h.sidBases
      content := fun cell reachable => by
        rw [content_markWritten, ← h.content cell reachable]
        cases cell <;> rfl }

/-- **One operation keeps the memory and the table together.** -/
lemma apply (h : Reflects fitting memory history) (operation : MemoryOperation) :
    Reflects fitting (memory.apply operation) (fitting.extend history operation) := by
  cases operation with
  | write address value =>
    have noted := h.noteStore address value
    change Reflects fitting (BankedMemory.put _ (BankedMemory.target _ address) value) _
    rw [noted.target address]
    exact noted.put (place_reachable fitting _ address) value
  | read address =>
    rw [Fitting.extend, Fitting.puts, List.append_nil]
    exact h.markRead address
  | peek address =>
    rw [Fitting.extend, Fitting.puts, List.append_nil]
    exact h
  | setControl value => exact h.put (show Cell.Reachable .control from trivial) value
  | showIo =>
    have control : memory.banking.control = history.last .control := h.content .control trivial
    have shown : memory.banking.state.io = showsRegisters (history.last .control) := by
      rw [h.bank, bankState_ofControl_eq]
    change Reflects fitting memory.showIo _
    rw [BankedMemory.showIo, shown, controlShowingIo_eq, control, Fitting.extend, Fitting.puts]
    by_cases registers : showsRegisters (history.last .control)
    · rw [if_pos registers, if_pos registers, List.append_nil]
      exact h
    · rw [if_neg registers, if_neg registers, if_neg registers]
      exact h.put (show Cell.Reachable .control from trivial) _

/-- **A whole sequence of operations keeps the memory and the table together.** -/
lemma perform (h : Reflects fitting memory history) (operations : List MemoryOperation) :
    Reflects fitting (memory.perform operations) (operations.foldl fitting.extend history) := by
  induction operations generalizing memory history with
  | nil => exact h
  | cons operation rest ih => exact ih (h.apply operation)

end Reflects

/-! ## Puts into other cells -/

/-- Whatever happens later, it is only through its latest entry that an earlier history counts. -/
lemma CellHistory.last_append_congr {history other : CellHistory} {cell : Cell}
    (h : history.last cell = other.last cell) (later : CellHistory) :
    CellHistory.last (history ++ later) cell = CellHistory.last (other ++ later) cell := by
  induction later generalizing history other with
  | nil => simpa using h
  | cons entry rest ih =>
    obtain ⟨put, value⟩ := entry
    rw [List.append_cons history, List.append_cons other]
    apply ih
    rw [last_append, last_append, h]

/-- Two histories that give all cells but one the same content, the control byte among them, do so
after the same further operations. -/
lemma Fitting.last_foldl_congr (fitting : Fitting) {history other : CellHistory} {spared : Cell}
    (control : spared ≠ .control)
    (h : ∀ cell, cell ≠ spared → history.last cell = other.last cell)
    (operations : List MemoryOperation) :
    ∀ cell, cell ≠ spared →
      CellHistory.last (operations.foldl fitting.extend history) cell =
        CellHistory.last (operations.foldl fitting.extend other) cell := by
  induction operations generalizing history other with
  | nil => exact h
  | cons operation rest ih =>
    apply ih
    intro cell different
    rw [extend, extend, h .control control.symm]
    exact CellHistory.last_append_congr (h cell different) _

/-- An operation that sets the control byte to a value of its own. -/
def MemoryOperation.SetsControl : MemoryOperation → Prop
  | .setControl _ => True
  | .write address _ => address = 1
  | .read _ | .peek _ | .showIo => False

lemma Fitting.puts_of_setsControl (fitting : Fitting) {operation : MemoryOperation}
    (h : operation.SetsControl) :
    ∃ value, ∀ control, fitting.puts control operation = [(.control, value)] := by
  cases operation with
  | setControl value => exact ⟨value, fun _ => rfl⟩
  | write address value =>
    obtain rfl : address = 1 := h
    exact ⟨value, fun _ => rfl⟩
  | read _ => exact h.elim
  | peek _ => exact h.elim
  | showIo => exact h.elim

/-- Leaving a write out of a sequence of operations changes no cell but its own, provided that the
later operations run under the same configurations: either the write does not set the control byte,
or the next operation sets it anew. -/
lemma Fitting.last_history_without_write (fitting : Fitting) (before after : List MemoryOperation)
    (b : UInt16) (value : UInt8)
    (banked : b = 1 → ∃ next rest, after = next :: rest ∧ next.SetsControl) {cell : Cell}
    (h : cell = .control ∨ cell ≠ (fitting.powerOn.perform before).target b) :
    CellHistory.last (fitting.history (before ++ .write b value :: after)) cell =
      CellHistory.last (fitting.history (before ++ after)) cell := by
  rw [((Reflects.initial fitting).perform before).target b] at h
  unfold history
  rw [List.foldl_append, List.foldl_append, List.foldl_cons]
  generalize before.foldl fitting.extend [] = earlier at *
  by_cases control : b = 1
  · -- The next operation overwrites the one cell in which the two histories differ.
    subst control
    obtain ⟨next, rest, rfl, sets⟩ := banked rfl
    obtain ⟨byte, puts⟩ := fitting.puts_of_setsControl sets
    have same (other : Cell) :
        (fitting.extend (fitting.extend earlier (.write 1 value)) next).last other =
          (fitting.extend earlier next).last other := by
      rw [extend, extend, extend, puts, puts]
      change CellHistory.last (earlier ++ [(.control, value)] ++ [(.control, byte)]) other = _
      rw [CellHistory.last_append, CellHistory.last_append, CellHistory.last_append]
      by_cases here : Cell.control = other
      · subst here
        simp only [Cell.keeps, and_self, if_true]
      · simp only [here, false_and, if_false]
    by_cases connected : cell = .unconnected
    · subst connected
      rfl
    · exact fitting.last_foldl_congr (by decide) (fun other _ => same other) rest cell connected
  · have spared : fitting.place (earlier.last .control) b ≠ .control := by
      unfold place
      split_ifs <;> simp
    refine fitting.last_foldl_congr spared (fun other different => ?_) after cell ?_
    · rw [extend, puts, CellHistory.last_append, if_neg (fun h => different h.1.symm)]
    · rcases h with rfl | h
      · exact spared.symm
      · exact h

/-- **The banked memory is a last-write-wins store.**  After any sequence of operations from
power-on, with any ROMs supplied and any chips decoded, reading an address and looking at it both
give what the table recalls: the latest direction or control byte, the byte of a ROM that shows,
`$FF` at an unconnected register, and else the byte that was put last into the register or the
memory that the address stands for.  A write is recalled through its own cell only: without it,
every address that leads to another cell reads the same, whatever is done and however the memory is
configured in between. -/
theorem read_recalls_last_write (fitting : Fitting) (operations : List MemoryOperation)
    (address : UInt16) :
    let memory := fitting.powerOn.perform operations
    (Bus.read memory address).1 = fitting.recalled (fitting.history operations) address ∧
      (Bus.peek memory address).1 = fitting.recalled (fitting.history operations) address ∧
      ∀ before after b value, operations = before ++ .write b value :: after →
        (b = 1 → ∃ next rest, after = next :: rest ∧ next.SetsControl) →
        memory.source address ≠ (fitting.powerOn.perform before).target b →
        (Bus.read memory address).1 =
          (Bus.read (fitting.powerOn.perform (before ++ after)) address).1 := by
  have reflects (operations : List MemoryOperation) :
      Reflects fitting (fitting.powerOn.perform operations) (fitting.history operations) :=
    (Reflects.initial fitting).perform operations
  refine ⟨(reflects operations).fetch address, (reflects operations).fetch address, ?_⟩
  rintro before after b value rfl banked elsewhere
  have control := fitting.last_history_without_write before after b value banked (Or.inl rfl)
  rw [(reflects _).source address] at elsewhere
  change BankedMemory.fetch _ address = BankedMemory.fetch _ address
  rw [(reflects _).fetch address, (reflects _).fetch address, Fitting.recalled, Fitting.recalled,
    ← control]
  exact fitting.last_history_without_write before after b value banked (Or.inr elsewhere)

/-- A byte stored at `$D418` while no register shows goes to memory, and is found there again when
the registers have been shown and hidden once more. -/
example :
    let fitting : Fitting := ⟨none, none, none, [0xD400]⟩
    let stored := [.write 1 0x34, .write 0xD418 0x0F, .showIo, .write 0xD418 0x07]
    fitting.recalled (fitting.history stored) 0xD418 = 0x07 ∧
      fitting.recalled (fitting.history (stored ++ [.setControl 0x30])) 0xD418 = 0x0F := by
  decide

end SidScore
