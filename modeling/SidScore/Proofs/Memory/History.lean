import SidScore.Proofs.Memory.Journal

/-!
# What a register has held

A journal lists what a routine stored.  What a register of the chips came to hold is another
matter: a store may have gone into the memory under the registers, or to another register, or come
through a repetition of the chip.  So the register is looked at itself.  A `HistoricMemory` keeps
the memories that the stores have left, and `Machine.memories` are those of a routine.

`register_memories` says what the journal has to do with it: the register takes the bytes of the
stores that decode to it while the registers show, and keeps its byte otherwise.
-/

namespace SidScore

/-! ## One store -/

namespace BankedMemory

variable (memory : BankedMemory) {register : UInt16}

/-- A register that a chip decodes and answers for, at its own address. -/
structure Connected (register : UInt16) : Prop where
  area : InRegisterArea register
  own : memory.canonical register = register
  wired : hardwired register = false

variable {memory}

lemma Connected.ioRegister_eq (h : memory.Connected register) :
    memory.ioRegister register = memory.content (.register register) := by
  have found : memory.registerCell register = .register register := by
    simp [registerCell, h.own, h.wired]
  rw [ioRegister, found]

/-- Nothing but the chips' bases decides what a register is. -/
lemma Connected.of_same {other : BankedMemory} (h : memory.Connected register)
    (bases : other.sidBases = memory.sidBases) : other.Connected register where
  area := h.area
  own := by rw [canonical_congr bases, h.own]
  wired := h.wired

/-- What decodes to a register lies in the area of the registers. -/
lemma inRegisterArea_of_canonical {address : UInt16}
    (h : InRegisterArea (memory.canonical address)) : InRegisterArea address := by
  simp only [InRegisterArea, UInt16.le_iff_toNat_le, UInt16.lt_iff_toNat_lt,
    UInt16.reduceToNat] at h ⊢
  rw [toNat_canonical] at h
  split_ifs at h <;> omega

/-- The writes that end up in a register. -/
lemma Connected.target_eq_iff (h : memory.Connected register) (address : UInt16) :
    memory.target address = .register register ↔
      memory.banking.state.io = true ∧ memory.canonical address = register := by
  constructor
  · intro reaches
    unfold target at reaches
    split at reaches
    next => cases reaches
    next =>
      split at reaches
      next => cases reaches
      next =>
        split at reaches
        next shown =>
          simp only [Bool.and_eq_true] at shown
          refine ⟨shown.2, ?_⟩
          unfold registerCell at reaches
          dsimp only at reaches
          split at reaches
          · cases reaches
          · exact Cell.register.inj reaches
        next => cases reaches
  · rintro ⟨shown, decodes⟩
    have area : InRegisterArea address := inRegisterArea_of_canonical (decodes ▸ h.area)
    have direction : address ≠ 0 := by
      rintro rfl
      simp [InRegisterArea] at area
    have control : address ≠ 1 := by
      rintro rfl
      simp [InRegisterArea] at area
    have within : (0xD000 ≤ address && address < 0xE000 && memory.banking.state.io) = true := by
      simp only [Bool.and_eq_true, decide_eq_true_eq]
      exact ⟨area, shown⟩
    rw [target, if_neg direction, if_neg control, if_pos within]
    simp [registerCell, decodes, h.wired]

/-- A store reaches a register if it decodes to it while the registers show. -/
lemma Connected.ioRegister_store (h : memory.Connected register) (address : UInt16)
    (value : UInt8) :
    (memory.store address value).ioRegister register =
      if memory.banking.state.io = true ∧ memory.canonical address = register then value
      else memory.ioRegister register := by
  have reachable : (Cell.register register).Reachable := h.area
  rw [(h.of_same (memory.sidBases_store address value)).ioRegister_eq, h.ioRegister_eq,
    memory.content_store address value reachable]
  refine ite_congr (propext ?_) (fun _ => rfl) fun _ => rfl
  rw [h.target_eq_iff]
  exact and_iff_left rfl

end BankedMemory

/-! ## The memories of a routine -/

/-- A memory, and the memories that the stores made to it have left, in order. -/
structure HistoricMemory where
  /-- The memory. -/
  memory : BankedMemory
  /-- The memory after each store. -/
  states : List BankedMemory

instance : Bus HistoricMemory where
  read historic address :=
    let (value, memory) := Bus.read historic.memory address
    (value, { historic with memory })
  write historic address value :=
    let memory := Bus.write historic.memory address value
    ⟨memory, historic.states ++ [memory]⟩

namespace Machine

/-- The memories that the stores of a routine leave, in order. -/
def memories (machine : Machine BankedMemory) (routine : Routine) (limit : ℕ) :
    List BankedMemory :=
  let start : Machine HistoricMemory := ⟨machine.cpu, ⟨machine.bus, []⟩⟩
  (start.runRoutine routine limit).2.bus.states

end Machine

/-! ## What the journal says of them -/

section Register

variable (canonical : UInt16 → UInt16) (register : UInt16)

/-- The store reaches the register. -/
def StoreRecord.reaches (record : StoreRecord) : Bool :=
  record.shown && canonical record.address == register

/-- The byte in the register after a store. -/
def StoreRecord.leaves (record : StoreRecord) (held : UInt8) : UInt8 :=
  if record.reaches canonical register then record.value else held

/-- The bytes in the register after each of a number of stores. -/
def bytesHeld (held : UInt8) : List StoreRecord → List UInt8
  | [] => []
  | record :: rest =>
    record.leaves canonical register held :: bytesHeld (record.leaves canonical register held) rest

variable {canonical register}

lemma bytesHeld_append (held : UInt8) (journal : List StoreRecord) (record : StoreRecord) :
    bytesHeld canonical register held (journal ++ [record]) =
      bytesHeld canonical register held journal ++ [record.leaves canonical register
        ((bytesHeld canonical register held journal).getLast?.getD held)] := by
  induction journal generalizing held with
  | nil => rfl
  | cons first rest ih =>
    rw [List.cons_append, bytesHeld, bytesHeld, ih, List.cons_append, List.getLast?_cons]
    rfl

end Register

/-- How the states of a memory fit the journal of its stores, as far as a register goes. -/
structure Holds (before : BankedMemory) (register : UInt16) (journaled : JournaledMemory)
    (historic : HistoricMemory) : Prop where
  same : journaled.memory = historic.memory
  sidBases : historic.memory.sidBases = before.sidBases
  states : historic.states.map (·.ioRegister register) =
    bytesHeld before.canonical register (before.ioRegister register) journaled.journal
  latest : historic.memory.ioRegister register =
    ((historic.states.map (·.ioRegister register)).getLast?).getD (before.ioRegister register)

/-- Every access keeps states and journal together. -/
lemma Holds.simulation {before : BankedMemory} {register : UInt16}
    (connected : before.Connected register) : Bus.Simulation (Holds before register) where
  read := by
    rintro ⟨memory, journal⟩ ⟨_, states⟩ address ⟨rfl, bases, held, latest⟩
    exact ⟨rfl, rfl, bases, held, latest⟩
  write := by
    rintro ⟨memory, journal⟩ ⟨_, states⟩ address value ⟨rfl, bases, held, latest⟩
    have after : (memory.store address value).ioRegister register =
        StoreRecord.leaves before.canonical register
          ⟨address, value, memory.banking.state.io⟩ (memory.ioRegister register) := by
      rw [(connected.of_same bases).ioRegister_store, BankedMemory.canonical_congr bases]
      simp [StoreRecord.leaves, StoreRecord.reaches]
    refine ⟨rfl, (memory.sidBases_store address value).trans bases, ?_, ?_⟩
    · change (states ++ [memory.store address value]).map _ = bytesHeld _ _ _ (journal ++ [_])
      rw [bytesHeld_append, ← held, List.map_append, List.map_singleton, after, latest]
    · change _ = ((states ++ [memory.store address value]).map _).getLast?.getD _
      rw [List.map_append, List.map_singleton, List.getLast?_concat]
      rfl

namespace Machine

variable (machine : Machine BankedMemory) (routine : Routine) (limit : ℕ)

/-- **What a register holds during a routine** is what the stores that reach it have put there. -/
lemma register_memories {register : UInt16} (connected : machine.bus.Connected register) :
    (machine.memories routine limit).map (·.ioRegister register) =
      bytesHeld machine.bus.canonical register (machine.bus.ioRegister register)
        (machine.stores routine limit) := by
  have beside : machine.journaled.Alike (Holds machine.bus register)
      ⟨machine.cpu, ⟨machine.bus, []⟩⟩ := ⟨rfl, rfl, rfl, rfl, rfl⟩
  exact (beside.runRoutine (Holds.simulation connected) routine limit).2.bus.states

end Machine

end SidScore
