import Mathlib.Tactic.Common
import Mathlib.Tactic.IntervalCases
import SidScore.Memory.Banked

/-!
# Cells behind the bus

What a write to one cell does to the content of every other, and which parts of the memory an
access leaves alone.  Everything here is about one access; histories of accesses are built on it.

The one thing to watch is the doubling of the processor's two registers: putting a byte into one
of them pokes the memory below as well.  No address reaches that memory, so it is left out of
`Cell.Reachable`, and for reachable cells a put changes the cell that it names and no other.
-/

namespace SidScore

/-- An update seen through `get`. -/
lemma vector_get_set {α : Type} {n : ℕ} (xs : Vector α n) (x : α) {i j : ℕ} (hi : i < n)
    (hj : j < n) : (xs.set i x hi).get ⟨j, hj⟩ = if i = j then x else xs.get ⟨j, hj⟩ :=
  Vector.getElem_set hi hj

/-! ## Plain memory -/

namespace Ram

@[simp] lemma peek_poke (ram : Ram) (a b : UInt16) (v : UInt8) :
    (ram.poke a v).peek b = if a = b then v else ram.peek b := by
  simp only [peek, poke, vector_get_set, UInt16.toNat_inj]

@[simp] lemma peek_empty (a : UInt16) : empty.peek a = 0 :=
  Vector.getElem_replicate a.toNat_lt

end Ram

namespace BankedMemory

/-! ## Addresses of registers -/

/-- The address lies where the chips' registers can show. -/
def InRegisterArea (address : UInt16) : Prop :=
  0xD000 ≤ address ∧ address < 0xE000

/-- The register that an address decodes to, as a number. -/
lemma toNat_canonical (memory : BankedMemory) (address : UInt16) :
    (memory.canonical address).toNat =
      if 0xD000 ≤ address.toNat ∧ address.toNat ≤ 0xD3FF then 0xD000 + address.toNat % 0x40
      else if (0xD400 ≤ address.toNat ∧ address.toNat ≤ 0xD7FF) ∧ memory.firstChipRepeats then
        0xD400 + address.toNat % 0x20
      else if 0xDC00 ≤ address.toNat ∧ address.toNat ≤ 0xDCFF then 0xDC00 + address.toNat % 0x10
      else if 0xDD00 ≤ address.toNat ∧ address.toNat ≤ 0xDDFF then 0xDD00 + address.toNat % 0x10
      else address.toNat := by
  unfold canonical
  simp only [Bool.and_eq_true, decide_eq_true_eq, UInt16.le_iff_toNat_le]
  have split (p : Prop) [Decidable p] (a b : UInt16) :
      (if p then a else b).toNat = if p then a.toNat else b.toNat := apply_ite _ _ _ _
  simp only [split, UInt16.toNat_add, UInt16.toNat_mod, UInt16.reduceToNat]
  split_ifs <;> omega

/-- Decoding does not leave the area. -/
lemma canonical_inRegisterArea (memory : BankedMemory) {address : UInt16}
    (h : InRegisterArea address) : InRegisterArea (memory.canonical address) := by
  simp only [InRegisterArea, UInt16.le_iff_toNat_le, UInt16.lt_iff_toNat_lt,
    UInt16.reduceToNat] at h ⊢
  rw [toNat_canonical]
  split_ifs <;> omega

/-- Decoding asks for the chips' bases and for nothing else. -/
lemma canonical_congr {memory other : BankedMemory} (h : memory.sidBases = other.sidBases) :
    memory.canonical = other.canonical := by
  unfold canonical firstChipRepeats
  rw [h]

/-! ## Putting and looking -/

/-- A cell that keeps what is put into it. -/
def Cell.keeps : Cell → Bool
  | .unconnected | .rom _ => false
  | .direction | .control | .ram _ | .register _ => true

/-- A cell that some address leads to under some configuration. -/
def Cell.Reachable : Cell → Prop
  | .ram address => address ≠ 0 ∧ address ≠ 1
  | .register address => InRegisterArea address
  | .direction | .control | .unconnected | .rom _ => True

/-- What a put leaves in every reachable cell. -/
lemma content_put (memory : BankedMemory) {cell other : Cell} (value : UInt8)
    (hcell : cell.Reachable) (hother : other.Reachable) :
    (memory.put cell value).content other =
      if cell = other ∧ cell.keeps then value else memory.content other := by
  cases cell with
  | direction => cases other <;> simp_all [put, content, Cell.keeps, Cell.Reachable, eq_comm]
  | control => cases other <;> simp_all [put, content, Cell.keeps, Cell.Reachable, eq_comm]
  | ram a => cases other <;> simp [put, content, Cell.keeps]
  | register r =>
    cases other with
    | register q =>
      have index : r.toNat % 4096 = q.toNat % 4096 ↔ r = q := by
        simp only [Cell.Reachable, InRegisterArea, UInt16.le_iff_toNat_le,
          UInt16.lt_iff_toNat_lt, UInt16.reduceToNat] at hcell hother
        rw [← UInt16.toNat_inj]
        omega
      simp [put, content, Cell.keeps, vector_get_set, index]
    | _ => simp [put, content, Cell.keeps]
  | unconnected => simp [put, Cell.keeps]
  | rom byte => simp [put, Cell.keeps]

/-! ## What an access leaves alone -/

@[simp] lemma content_markRead (memory : BankedMemory) (address : UInt16) (cell : Cell) :
    (memory.markRead address).content cell = memory.content cell := by
  cases cell <;> rfl

@[simp] lemma content_markWritten (memory : BankedMemory) (address : UInt16) (cell : Cell) :
    (memory.markWritten address).content cell = memory.content cell := by
  cases cell <;> rfl

/-- Observing a store changes the list of observed stores and nothing else. -/
lemma observeStore_eq (memory : BankedMemory) (address : UInt16) (value : UInt8) :
    memory.observeStore address value =
      { memory with observed := (memory.observeStore address value).observed } := by
  unfold observeStore
  split
  · split <;> rfl
  · rfl

/-! ## Where an access leads -/

lemma target_reachable (memory : BankedMemory) (address : UInt16) :
    (memory.target address).Reachable := by
  unfold target registerCell
  dsimp only
  split_ifs with zero one area
  · trivial
  · trivial
  · trivial
  · simp only [Bool.and_eq_true, decide_eq_true_eq] at area
    exact memory.canonical_inRegisterArea area.1
  · exact ⟨zero, one⟩

/-- A store changes the cell where it ends up, if that keeps anything, and no other. -/
lemma content_store (memory : BankedMemory) (address : UInt16) (value : UInt8) {cell : Cell}
    (reachable : cell.Reachable) :
    (memory.store address value).content cell =
      if memory.target address = cell ∧ cell.keeps then value else memory.content cell := by
  -- Both records of the store are kept beside the cells.
  set noted := (memory.observeStore address value).markWritten address with hnoted
  have target : noted.target address = memory.target address := by
    rw [hnoted, observeStore_eq]
    rfl
  have content : noted.content cell = memory.content cell := by
    rw [hnoted, content_markWritten, observeStore_eq]
    cases cell <;> rfl
  have put : (memory.store address value).content cell =
      (noted.put (memory.target address) value).content cell := by
    rw [store, ← hnoted, target]
  rw [put, content_put noted value (memory.target_reachable address) reachable, content]
  refine ite_congr (propext ?_) (fun _ => rfl) fun _ => rfl
  constructor
  · rintro ⟨rfl, keeps⟩
    exact ⟨rfl, keeps⟩
  · rintro ⟨rfl, keeps⟩
    exact ⟨rfl, keeps⟩

/-- While the registers show, an address in their area reads as the register it decodes to. -/
lemma fetch_of_inRegisterArea {memory : BankedMemory} {address : UInt16}
    (area : InRegisterArea address) (shows : memory.banking.state.io = true) :
    memory.fetch address = memory.ioRegister address := by
  simp only [InRegisterArea, UInt16.le_iff_toNat_le, UInt16.lt_iff_toNat_lt,
    UInt16.reduceToNat] at area
  have zero : address ≠ 0 := by rintro rfl; simp at area
  have one : address ≠ 1 := by rintro rfl; simp at area
  have source : memory.source address = memory.registerCell address := by
    unfold BankedMemory.source
    simp only [if_neg zero, if_neg one, UInt16.lt_iff_toNat_lt, UInt16.reduceToNat]
    rw [if_neg (by omega), if_neg (by omega), if_neg (by omega), if_pos area.2, if_pos shows]
  rw [fetch, source, ioRegister]

end BankedMemory

end SidScore
