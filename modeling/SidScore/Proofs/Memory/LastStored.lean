import SidScore.Proofs.Memory.History

/-!
# The last store counts

Of all that a routine stores, a register of a chip shows the last byte that reached it, and the
control register the last byte that went to its address.  Both are a byte of the memory that some
stores set and no other access changes, which is `SetBy`; and of such a byte a routine leaves what
was `lastStored`.
-/

namespace SidScore

section LastStored

variable (lands : StoreRecord → Bool) (held : UInt8)

/-- The byte that is there after a number of stores of which some land: that of the last one that
does, and else the byte that was there before. -/
def lastStored (journal : List StoreRecord) : UInt8 :=
  ((journal.filter lands).map StoreRecord.value).getLastD held

lemma lastStored_nil : lastStored lands held [] = held :=
  rfl

lemma lastStored_append (journal later : List StoreRecord) :
    lastStored lands held (journal ++ later) =
      lastStored lands (lastStored lands held journal) later := by
  simp only [lastStored, List.filter_append, List.map_append, List.getLastD_eq_getLast?,
    List.getLast?_append]
  cases ((later.filter lands).map StoreRecord.value).getLast? <;> rfl

lemma lastStored_concat (journal : List StoreRecord) (record : StoreRecord) :
    lastStored lands held (journal ++ [record]) =
      if lands record then record.value else lastStored lands held journal := by
  rw [lastStored_append]
  by_cases landed : lands record = true
  · simp [lastStored, landed]
  · simp [lastStored, landed]

end LastStored

/-- A byte of a memory with these chips that the stores which land set, and that no other access
changes. -/
structure SetBy (bases : List UInt16) (byte : BankedMemory → UInt8)
    (lands : StoreRecord → Bool) : Prop where
  read : ∀ memory address, byte (memory.markRead address) = byte memory
  store : ∀ memory address value, memory.sidBases = bases →
    byte (memory.store address value) =
      if lands ⟨address, value, memory.banking.state.io⟩ then value else byte memory

namespace SetBy

variable {bases : List UInt16} {byte : BankedMemory → UInt8} {lands : StoreRecord → Bool}

/-- Every access keeps the byte and the journal together. -/
lemma keeps (h : SetBy bases byte lands) (held : UInt8) :
    Bus.Keeps fun journaled : JournaledMemory => journaled.memory.sidBases = bases ∧
      byte journaled.memory = lastStored lands held journaled.journal where
  read := by
    rintro journaled address ⟨same, current⟩
    exact ⟨same, (h.read journaled.memory address).trans current⟩
  write := by
    rintro journaled address value ⟨same, current⟩
    refine ⟨(journaled.memory.sidBases_store address value).trans same, ?_⟩
    have stored := h.store journaled.memory address value same
    rw [current] at stored
    exact stored.trans (lastStored_concat lands held journaled.journal _).symm

/-- **What a routine leaves** of the byte is what its last store that landed has put there. -/
lemma runRoutine (h : SetBy bases byte lands) {machine : Machine BankedMemory}
    (same : machine.bus.sidBases = bases) (routine : Routine) (limit : ℕ) :
    byte (machine.runRoutine routine limit).2.bus =
      lastStored lands (byte machine.bus) (machine.stores routine limit) := by
  rw [← (machine.runRoutine_journaled routine limit).2]
  have before : machine.journaled.bus.memory.sidBases = bases ∧
      byte machine.journaled.bus.memory =
        lastStored lands (byte machine.bus) machine.journaled.bus.journal :=
    ⟨same, (lastStored_nil lands _).symm⟩
  exact (Machine.keeps_runRoutine (h.keeps (byte machine.bus)) before routine limit).2

end SetBy

namespace BankedMemory

variable {memory : BankedMemory}

/-- A connected register is set by the stores that decode to it while the registers show. -/
lemma Connected.setBy {register : UInt16} (h : memory.Connected register) :
    SetBy memory.sidBases (·.ioRegister register) (·.reaches memory.canonical register) where
  read other address := content_markRead other address _
  store other address value same := by
    rw [(h.of_same same).ioRegister_store, canonical_congr same]
    simp [StoreRecord.reaches]

/-- A store ends up in the control register where that is its address. -/
lemma target_eq_control_iff (address : UInt16) :
    memory.target address = .control ↔ address = 1 := by
  unfold target registerCell
  dsimp only
  split_ifs with zero one <;> simp_all

/-- The control register is set by the stores to its address. -/
lemma control_setBy (bases : List UInt16) : SetBy bases (·.banking.control) (·.address == 1) where
  read _ _ := rfl
  store other address value _ := by
    have after : (other.store address value).banking.control = _ :=
      other.content_store address value (show Cell.Reachable .control from trivial)
    simp only [after, target_eq_control_iff, Cell.keeps, and_true, beq_iff_eq]
    rfl

end BankedMemory

end SidScore
