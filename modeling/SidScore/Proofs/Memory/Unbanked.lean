import SidScore.Proofs.Memory.Footprint

/-!
# Programs that do not notice banking

Without images of BASIC and the KERNAL there are two places where banked memory can answer with
something else than its plain memory: the processor's two registers, and the area of the chips'
registers.  A program that keeps away from these, `BankedMemory.Diverted`, runs on banked memory as
it runs on plain memory, whatever the control byte selects and wherever the chips are.

The two memories need not agree on what is diverted.  `BankedMemory.Beside` says what the run leaves
of it: nothing of it is touched.
-/

namespace SidScore

namespace Ram

@[simp] lemma access_markRead (ram : Ram) (a b : UInt16) :
    (ram.markRead a).access b =
      if a = b then { ram.access b with read := true } else ram.access b := by
  have kept : (ram.markRead a).wasWritten b = ram.wasWritten b := rfl
  rw [access, wasRead_markRead, kept]
  by_cases same : a = b <;> simp [same, access]

@[simp] lemma access_poke (ram : Ram) (a b : UInt16) (value : UInt8) :
    (ram.poke a value).access b = ram.access b :=
  rfl

@[simp] lemma access_markWritten (ram : Ram) (a b : UInt16) :
    (ram.markWritten a).access b =
      if a = b then { ram.access b with written := true } else ram.access b := by
  have kept : (ram.markWritten a).wasRead b = ram.wasRead b := rfl
  rw [access, wasWritten_markWritten, kept]
  by_cases same : a = b <;> simp [same, access]

end Ram

namespace BankedMemory

/-! ## Away from what is diverted -/

/-- An access to the address can end up elsewhere than in plain memory, although BASIC and the
KERNAL are missing. -/
def Diverted (address : UInt16) : Prop :=
  address = 0 ∨ address = 1 ∨ InRegisterArea address

variable {memory : BankedMemory} {address : UInt16}

/-- A read falls through to plain memory, also where BASIC and the KERNAL would show. -/
lemma source_of_not_diverted (basic : memory.basicRom = none) (kernal : memory.kernalRom = none)
    (h : ¬ Diverted address) : memory.source address = .ram address := by
  obtain ⟨zero, one, outside⟩ : address ≠ 0 ∧ address ≠ 1 ∧ ¬ InRegisterArea address := by
    simpa [Diverted] using h
  have missing {shows : Bool} :
      romCell (none : Option SystemRom) shows address = .ram address := rfl
  unfold source
  dsimp only
  rw [if_neg zero, if_neg one, basic, kernal, missing, missing]
  split_ifs with low inBasic high area
  · rfl
  · rfl
  · rfl
  · exact absurd ⟨UInt16.not_lt.mp high, area⟩ outside
  · exact absurd ⟨UInt16.not_lt.mp high, area⟩ outside
  · rfl

lemma fetch_of_not_diverted (basic : memory.basicRom = none) (kernal : memory.kernalRom = none)
    (h : ¬ Diverted address) : memory.fetch address = memory.ram.peek address := by
  rw [fetch, source_of_not_diverted basic kernal h, content]

/-- A write goes to plain memory, and the records aside changes nothing else. -/
lemma store_of_not_diverted (memory : BankedMemory) (h : ¬ Diverted address) (value : UInt8) :
    ∃ observed, memory.store address value =
      { memory with ram := (memory.ram.markWritten address).poke address value, observed } := by
  obtain ⟨zero, one, outside⟩ : address ≠ 0 ∧ address ≠ 1 ∧ ¬ InRegisterArea address := by
    simpa [Diverted] using h
  have target (other : BankedMemory) : other.target address = .ram address := by
    unfold BankedMemory.target
    rw [if_neg zero, if_neg one, if_neg]
    intro area
    simp only [Bool.and_eq_true, decide_eq_true_eq] at area
    exact outside area.1
  refine ⟨(memory.observeStore address value).observed, ?_⟩
  rw [store, target, observeStore_eq]
  rfl

/-! ## Plain and banked memory beside each other -/

/-- Plain memory and banked memory have been through the same run since the banked one was `start`,
and the run kept away from what is diverted. -/
structure Beside (start : BankedMemory) (flat : Ram) (memory : BankedMemory) : Prop where
  basicRom : memory.basicRom = none
  kernalRom : memory.kernalRom = none
  /-- Elsewhere they hold the same bytes and the same marks. -/
  same : ∀ address, ¬ Diverted address →
    memory.ram.peek address = flat.peek address ∧ memory.ram.access address = flat.access address
  /-- What is diverted has the bytes and the marks that it had. -/
  kept : ∀ address, Diverted address → memory.ram.peek address = start.ram.peek address ∧
    memory.ram.access address = start.ram.access address
  /-- So do the registers of the processor, -/
  banking : memory.banking = start.banking
  /-- and those of the chips. -/
  registers : memory.registers = start.registers

variable {start : BankedMemory} {flat : Ram}

lemma Beside.markRead (h : Beside start flat memory) {cell : UInt16} (plain : ¬ Diverted cell) :
    Beside start (flat.markRead cell) (memory.markRead cell) where
  basicRom := h.basicRom
  kernalRom := h.kernalRom
  same address outside := by
    refine ⟨(h.same address outside).1, ?_⟩
    show (memory.ram.markRead cell).access address = _
    rw [Ram.access_markRead, Ram.access_markRead, (h.same address outside).2]
  kept address diverted := by
    have other : cell ≠ address := by
      rintro rfl
      exact plain diverted
    refine ⟨(h.kept address diverted).1, ?_⟩
    show (memory.ram.markRead cell).access address = _
    rw [Ram.access_markRead, if_neg other, (h.kept address diverted).2]
  banking := h.banking
  registers := h.registers

lemma Beside.store (h : Beside start flat memory) {cell : UInt16} (plain : ¬ Diverted cell)
    (value : UInt8) :
    Beside start ((flat.markWritten cell).poke cell value) (memory.store cell value) := by
  obtain ⟨observed, stored⟩ := store_of_not_diverted memory plain value
  rw [stored]
  refine ⟨h.basicRom, h.kernalRom, ?_, ?_, h.banking, h.registers⟩
  · intro address outside
    obtain ⟨byte, access⟩ := h.same address outside
    constructor
    · show ((memory.ram.markWritten cell).poke cell value).peek address = _
      rw [Ram.peek_poke, Ram.peek_poke]
      exact ite_congr rfl (fun _ => rfl) fun _ => byte
    · show (memory.ram.markWritten cell).access address = (flat.markWritten cell).access address
      rw [Ram.access_markWritten, Ram.access_markWritten, access]
  · intro address diverted
    obtain ⟨byte, access⟩ := h.kept address diverted
    have other : cell ≠ address := by
      rintro rfl
      exact plain diverted
    constructor
    · show ((memory.ram.markWritten cell).poke cell value).peek address = _
      rw [Ram.peek_poke, if_neg other]
      exact byte
    · show (memory.ram.markWritten cell).access address = _
      rw [Ram.access_markWritten, if_neg other, access]

lemma Beside.simulation (start : BankedMemory) :
    Bus.SimulationOn (fun address => ¬ Diverted address) (fun address => ¬ Diverted address)
      (Beside start) where
  read plain h := by
    refine ⟨?_, h.markRead plain⟩
    exact ((fetch_of_not_diverted h.basicRom h.kernalRom plain).trans (h.same _ plain).1).symm
  write value plain h := h.store plain value

end BankedMemory

namespace Machine

open BankedMemory (Diverted Beside)

/-- **Banked memory follows plain memory.**  Take a machine on plain memory and one on banked memory
without BASIC and KERNAL, in the same state, with the same bytes and marks wherever nothing is
diverted.  As long as the instructions of the first keep away from what is diverted, those of the
second end alike and leave the same state, bytes and marks; and they leave what is diverted
alone. -/
theorem banked_follows_flat (flat : Machine Ram) (banked : Machine BankedMemory)
    (state : flat.cpu.SameState banked.cpu) (basic : banked.bus.basicRom = none)
    (kernal : banked.bus.kernalRom = none)
    (same : ∀ address, ¬ Diverted address →
      banked.bus.ram.peek address = flat.bus.peek address ∧
        banked.bus.ram.access address = flat.bus.access address)
    (n : ℕ) (avoids : ∀ address ∈ flat.reads n ++ flat.writes n, ¬ Diverted address) :
    (∀ k < n, (flat.after k).step.1 = (banked.after k).step.1) ∧
      (flat.after n).cpu.SameState (banked.after n).cpu ∧
      Beside banked.bus (flat.after n).bus (banked.after n).bus := by
  rw [List.forall_mem_append] at avoids
  have beside : Beside banked.bus flat.bus banked.bus :=
    ⟨basic, kernal, same, fun _ _ => ⟨rfl, rfl⟩, rfl, rfl⟩
  exact state.after (Beside.simulation banked.bus) beside avoids.1 avoids.2

/-! ### A byte in the place of BASIC -/

/-- `DEC $A000`, while the control byte selects BASIC. -/
def underBasic : Machine BankedMemory where
  cpu := .powerOn 0x0200
  bus := BankedMemory.powerOn.loadRam 0x0200 [0xCE, 0x00, 0xA0]

namespace underBasic

/-- The same program in plain memory, with another byte in the place of the control byte. -/
def flat : Machine Ram where
  cpu := { underBasic.cpu with fetchedAt := 0x1234 }
  bus := underBasic.bus.ram.poke 0x0001 0x55

lemma state : flat.cpu.SameState underBasic.cpu :=
  ⟨rfl, rfl, rfl, rfl, rfl, rfl, rfl, rfl⟩

lemma same (address : UInt16) (plain : ¬ Diverted address) :
    underBasic.bus.ram.peek address = flat.bus.peek address ∧
      underBasic.bus.ram.access address = flat.bus.access address := by
  rw [flat, Ram.peek_poke, Ram.access_poke, if_neg]
  · exact ⟨rfl, rfl⟩
  · rintro rfl
    exact plain (.inr (.inl rfl))

lemma accesses_eq :
    flat.reads 1 ++ flat.writes 1 = [0x0200, 0x0201, 0x0202, 0xA000, 0xA000] := by
  decide +kernel

lemma avoids : ∀ address ∈ flat.reads 1 ++ flat.writes 1, ¬ Diverted address := by
  rw [accesses_eq]
  simp [Diverted, BankedMemory.InRegisterArea]

/-- The theorem there: the same byte in the place of BASIC, and its own control byte. -/
theorem counted_down : underBasic.bus.banking.state.basic = true ∧
    (underBasic.after 1).bus.ram.peek 0xA000 = (flat.after 1).bus.peek 0xA000 ∧
    (underBasic.after 1).bus.ram.peek 0x0001 = 0x37 := by
  obtain ⟨-, -, beside⟩ := banked_follows_flat flat underBasic state rfl rfl same 1 avoids
  have plain : ¬ Diverted 0xA000 := by simp [Diverted, BankedMemory.InRegisterArea]
  refine ⟨by decide, (beside.same 0xA000 plain).1, ?_⟩
  rw [(beside.kept 0x0001 (.inr (.inl rfl))).1]
  decide +kernel

end underBasic

end Machine

end SidScore
