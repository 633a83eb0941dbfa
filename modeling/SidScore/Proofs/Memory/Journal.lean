import SidScore.Proofs.Memory.Cells
import SidScore.Proofs.Processor.Simulation

/-!
# What a routine stores

The memory keeps two records of the stores made to it, and neither tells all.  The access log knows
addresses but no order, no bytes and not what showed at the address; the observer lists the stores
within its window, and forgets them when they are taken.  To say what the two records mean, a
`JournaledMemory` keeps a full journal beside the memory.

The journal is no part of the program.  The processor does the same with it as without it
(`runRoutine_journaled`), so the journal of a run is a function of the run, `Machine.stores`.  What
the records of the memory say of that journal is `Journaled`.
-/

namespace SidScore

/-! ## What an access leaves of the records -/

namespace Ram

@[simp] lemma wasWritten_markWritten (ram : Ram) (a b : UInt16) :
    (ram.markWritten a).wasWritten b = (decide (a = b) || ram.wasWritten b) := by
  simp only [wasWritten, markWritten, vector_get_set, UInt16.toNat_inj]
  by_cases same : a = b <;> simp [same]

lemma wasWritten_clearLog (ram : Ram) (a : UInt16) : ram.clearLog.wasWritten a = false :=
  Vector.getElem_replicate a.toNat_lt

end Ram

namespace BankedMemory

variable (memory : BankedMemory)

@[simp] lemma sidBases_put (cell : Cell) (value : UInt8) :
    (memory.put cell value).sidBases = memory.sidBases := by
  cases cell <;> rfl

@[simp] lemma window_put (cell : Cell) (value : UInt8) :
    (memory.put cell value).window = memory.window := by
  cases cell <;> rfl

@[simp] lemma observed_put (cell : Cell) (value : UInt8) :
    (memory.put cell value).observed = memory.observed := by
  cases cell <;> rfl

@[simp] lemma wasWritten_put (cell : Cell) (value : UInt8) (address : UInt16) :
    (memory.put cell value).wasWritten address = memory.wasWritten address := by
  cases cell <;> rfl

/-- The address is under observation. -/
def observes (address : UInt16) : Bool :=
  memory.window.any (·.contains address)

lemma observed_observeStore (address : UInt16) (value : UInt8) :
    (memory.observeStore address value).observed =
      if memory.observes address then memory.observed.push ⟨address, value⟩
      else memory.observed := by
  unfold observeStore observes
  cases memory.window with
  | none => rfl
  | some window =>
    rw [Option.any_some]
    dsimp only
    split <;> rfl

lemma sidBases_store (address : UInt16) (value : UInt8) :
    (memory.store address value).sidBases = memory.sidBases := by
  rw [store, sidBases_put, observeStore_eq]
  rfl

lemma window_store (address : UInt16) (value : UInt8) :
    (memory.store address value).window = memory.window := by
  rw [store, window_put, observeStore_eq]
  rfl

lemma observed_store (address : UInt16) (value : UInt8) :
    (memory.store address value).observed =
      if memory.observes address then memory.observed.push ⟨address, value⟩
      else memory.observed := by
  rw [store, observed_put, ← observed_observeStore]
  rfl

lemma wasWritten_store (address other : UInt16) (value : UInt8) :
    (memory.store address value).wasWritten other =
      (decide (address = other) || memory.wasWritten other) := by
  rw [store, wasWritten_put, observeStore_eq]
  exact Ram.wasWritten_markWritten memory.ram address other

end BankedMemory

/-! ## The journal -/

/-- A store as the processor issued it, and whether the chips' registers showed. -/
structure StoreRecord where
  /-- The address on the bus. -/
  address : UInt16
  /-- The byte. -/
  value : UInt8
  /-- The registers showed at `$D000`–`$DFFF`. -/
  shown : Bool
  deriving Repr, DecidableEq

/-- The store alone. -/
def StoreRecord.toStore (record : StoreRecord) : Store :=
  ⟨record.address, record.value⟩

/-- A memory, and the stores made to it in order. -/
structure JournaledMemory where
  /-- The memory. -/
  memory : BankedMemory
  /-- The stores. -/
  journal : List StoreRecord

instance : Bus JournaledMemory where
  read journaled address :=
    let (value, memory) := Bus.read journaled.memory address
    (value, { journaled with memory })
  write journaled address value :=
    ⟨Bus.write journaled.memory address value,
      journaled.journal ++ [⟨address, value, journaled.memory.banking.state.io⟩]⟩

/-- A journal changes no answer. -/
lemma JournaledMemory.simulation :
    Bus.Simulation fun (journaled : JournaledMemory) memory => journaled.memory = memory where
  read := by
    rintro journaled _ address rfl
    exact ⟨rfl, rfl⟩
  write := by
    rintro journaled _ address value rfl
    rfl

namespace Machine

/-- The machine with an empty journal. -/
def journaled (machine : Machine BankedMemory) : Machine JournaledMemory :=
  ⟨machine.cpu, ⟨machine.bus, []⟩⟩

/-- The stores that a routine makes, in order. -/
def stores (machine : Machine BankedMemory) (routine : Routine) (limit : ℕ) : List StoreRecord :=
  (machine.journaled.runRoutine routine limit).2.bus.journal

/-- The processor does the same with a journal as without. -/
lemma runRoutine_journaled (machine : Machine BankedMemory) (routine : Routine) (limit : ℕ) :
    (machine.journaled.runRoutine routine limit).1 = (machine.runRoutine routine limit).1 ∧
      (machine.journaled.runRoutine routine limit).2.bus.memory =
        (machine.runRoutine routine limit).2.bus := by
  have beside : machine.journaled.Alike (fun journaled memory => journaled.memory = memory)
      machine := ⟨rfl, rfl⟩
  obtain ⟨same, after⟩ := beside.runRoutine JournaledMemory.simulation routine limit
  exact ⟨same, after.bus⟩

end Machine

/-! ## What the records say of it -/

/-- What the memory `after` tells of the stores made since it was `before`. -/
structure Journaled (before after : BankedMemory) (journal : List StoreRecord) : Prop where
  /-- The chips stay where they are. -/
  sidBases : after.sidBases = before.sidBases
  /-- The observer looks where it looked. -/
  window : after.window = before.window
  /-- The log has the addresses of the stores, whatever showed there. -/
  wasWritten : ∀ address, after.wasWritten address = true ↔
    before.wasWritten address = true ∨ ∃ record ∈ journal, record.address = address
  /-- The observer has listed the stores within its window. -/
  observed : after.observed.toList = before.observed.toList ++
    (journal.filter fun record => before.observes record.address).map StoreRecord.toStore

namespace Journaled

variable {before after : BankedMemory} {journal : List StoreRecord}

lemma refl (memory : BankedMemory) : Journaled memory memory [] :=
  ⟨rfl, rfl, fun _ => by simp, by simp⟩

lemma read (h : Journaled before after journal) (address : UInt16) :
    Journaled before (after.markRead address) journal :=
  ⟨h.sidBases, h.window, h.wasWritten, h.observed⟩

lemma store (h : Journaled before after journal) (address : UInt16) (value : UInt8) (shown : Bool) :
    Journaled before (after.store address value) (journal ++ [⟨address, value, shown⟩]) where
  sidBases := by rw [BankedMemory.sidBases_store, h.sidBases]
  window := by rw [BankedMemory.window_store, h.window]
  wasWritten other := by
    rw [BankedMemory.wasWritten_store, Bool.or_eq_true, h.wasWritten, decide_eq_true_iff]
    simp only [List.mem_append, List.mem_singleton, or_and_right, exists_or, exists_eq_left]
    exact or_comm.trans or_assoc
  observed := by
    have observes : after.observes address = before.observes address := by
      rw [BankedMemory.observes, h.window]
      rfl
    rw [BankedMemory.observed_store, observes, List.filter_append, List.map_append,
      ← List.append_assoc, ← h.observed]
    by_cases within : before.observes address = true
    · rw [if_pos within, Array.toList_push, List.filter_cons, if_pos within]
      rfl
    · rw [if_neg within, List.filter_cons, if_neg within, List.filter_nil, List.map_nil,
        List.append_nil]

/-- Every access keeps journal and records together. -/
lemma keeps (before : BankedMemory) :
    Bus.Keeps fun journaled : JournaledMemory =>
      Journaled before journaled.memory journaled.journal where
  read address h := h.read address
  write address value h := h.store address value _

/-- **The records after a routine.** -/
lemma runRoutine (machine : Machine BankedMemory) (routine : Routine) (limit : ℕ) :
    Journaled machine.bus (machine.runRoutine routine limit).2.bus
      (machine.stores routine limit) := by
  rw [← (machine.runRoutine_journaled routine limit).2]
  exact Machine.keeps_runRoutine (keeps machine.bus) (refl machine.bus) routine limit

end Journaled

end SidScore
