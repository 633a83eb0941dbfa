import SidScore.Proofs.Memory.Cells
import SidScore.Proofs.Processor.Fetching
import SidScore.Proofs.Processor.Simulation

/-!
# Addresses that store bytes

Not every address of a memory keeps what is written to it: behind some lie ROMs, and behind others
the registers of chips.  `Bus.Storage` names the addresses that do, together with a condition under
which they go on doing so: a read changes nothing there, and a write changes the address written and
no other.

Plain memory stores bytes at all its addresses.  Banked memory does so where plain memory shows and
takes the writes, `BankedMemory.ShowsRam`, and no store to such an address changes that.
-/

namespace SidScore

namespace Bus

variable {M : Type} [Bus M]

/-- Under a condition, which accesses keep, the memory stores bytes at some addresses. -/
structure Storage (M : Type) [Bus M] (Plain : M → Prop) (addresses : UInt16 → Prop) : Prop where
  read : ∀ {memory : M} (address : UInt16), Plain memory → Plain (Bus.read memory address).2
  write : ∀ {memory : M} {address : UInt16} (value : UInt8), Plain memory → addresses address →
    Plain (Bus.write memory address value)
  byte_read : ∀ {memory : M} (address : UInt16) {cell : UInt16}, Plain memory → addresses cell →
    (Bus.read (Bus.read memory address).2 cell).1 = (Bus.read memory cell).1
  byte_write : ∀ {memory : M} {address cell : UInt16} (value : UInt8), Plain memory →
    addresses address → addresses cell →
    (Bus.read (Bus.write memory address value) cell).1 =
      if address = cell then value else (Bus.read memory cell).1

/-- Two memories that store, and hold the same bytes at some addresses. -/
structure Agree (Plain : M → Prop) (code : UInt16 → Prop) (memory other : M) : Prop where
  plain : Plain memory
  plain' : Plain other
  byte : ∀ address, code address → (Bus.read memory address).1 = (Bus.read other address).1

variable {Plain : M → Prop} {addresses code : UInt16 → Prop}

/-- Reading where two memories agree gives the same bytes, and they go on agreeing. -/
lemma Storage.simulation (storage : Storage M Plain addresses)
    (inside : ∀ address, code address → addresses address) :
    SimulationOn code (fun _ => False) (Agree Plain code) where
  read {memory other address} reads agree := by
    refine ⟨agree.byte address reads, storage.read _ agree.plain, storage.read _ agree.plain', ?_⟩
    intro cell hcell
    rw [storage.byte_read _ agree.plain (inside cell hcell),
      storage.byte_read _ agree.plain' (inside cell hcell)]
    exact agree.byte cell hcell
  write _ admitted := admitted.elim

/-- A program that writes nothing leaves the bytes that are stored. -/
lemma Storage.agree_run {α : Type} (storage : Storage M Plain addresses) (program : BusProgram α)
    {memory : M} (plain : Plain memory) (h : program.writes memory = []) :
    Agree Plain addresses (program.run memory).2 memory := by
  induction program generalizing memory with
  | done value => exact ⟨plain, plain, fun _ _ => rfl⟩
  | read address next ih =>
    have rest := ih _ (storage.read address plain) h
    refine ⟨rest.plain, plain, fun cell hcell => ?_⟩
    exact (rest.byte cell hcell).trans (storage.byte_read address plain hcell)
  | write address value next ih => cases h

end Bus

/-! ## Plain memory -/

lemma Ram.storage (addresses : UInt16 → Prop) :
    Bus.Storage Ram (fun _ => True) addresses where
  read _ _ := trivial
  write _ _ _ := trivial
  byte_read _ _ _ _ := rfl
  byte_write {ram address cell} value _ _ _ :=
    (ram.markWritten address).peek_poke address cell value

/-! ## Banked memory -/

namespace BankedMemory

/-- Reads and writes of the addresses end up in plain memory. -/
def ShowsRam (addresses : UInt16 → Prop) (memory : BankedMemory) : Prop :=
  ∀ address, addresses address →
    memory.source address = .ram address ∧ memory.target address = .ram address

variable {addresses : UInt16 → Prop} {memory : BankedMemory} {address : UInt16}

lemma reachable_of_source (h : memory.source address = .ram address) :
    Cell.Reachable (.ram address) := by
  constructor
  · rintro rfl
    cases h
  · rintro rfl
    cases h

/-- A store that ends up in plain memory leads no access elsewhere. -/
lemma decoding_store (h : memory.target address = .ram address) (value : UInt8) :
    (memory.store address value).source = memory.source ∧
      (memory.store address value).target = memory.target := by
  have noted : ((memory.observeStore address value).markWritten address).target address =
      .ram address := by
    rw [observeStore_eq]
    exact h
  rw [store, noted, observeStore_eq]
  exact ⟨rfl, rfl⟩

lemma ShowsRam.store (h : ShowsRam addresses memory) (stored : addresses address) (value : UInt8) :
    ShowsRam addresses (memory.store address value) := by
  obtain ⟨source, target⟩ := decoding_store (h address stored).2 value
  intro cell hcell
  rw [source, target]
  exact h cell hcell

lemma storage (addresses : UInt16 → Prop) :
    Bus.Storage BankedMemory (ShowsRam addresses) addresses where
  read _ shows := shows
  write value shows stored := shows.store stored value
  byte_read {memory} address cell _ _ := memory.content_markRead address (memory.source cell)
  byte_write {memory address cell} value shows stored hcell := by
    obtain ⟨source, -⟩ := decoding_store (shows address stored).2 value
    have reachable := reachable_of_source (shows cell hcell).1
    show (memory.store address value).content ((memory.store address value).source cell) =
      if address = cell then value else memory.content (memory.source cell)
    rw [source, (shows cell hcell).1, content_store memory address value reachable,
      (shows address stored).2]
    simp [Cell.keeps]

end BankedMemory

end SidScore
