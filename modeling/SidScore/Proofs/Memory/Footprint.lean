import SidScore.Proofs.Memory.Journal

/-!
# The footprint of a run

A run depends on the bytes that it reads, and the log marks every address that it reads.  So the
marks of a run that began with an empty log are all that the run can have depended on: two memories
that agree at these addresses are the same to it, for as many instructions as the marks were made
in.

Agreement is asked for at the start only.  A cell may be written before it is read, as a program
that changes itself does, and by then its first byte is gone.  What stays true all along is
`Ram.Tracks`: a cell that was written holds the same byte in both memories, and every other cell
holds what it held.
-/

namespace SidScore

namespace Ram

/-! ## The marks of a run -/

@[simp] lemma wasRead_markRead (ram : Ram) (a b : UInt16) :
    (ram.markRead a).wasRead b = (decide (a = b) || ram.wasRead b) := by
  simp only [wasRead, markRead, vector_get_set, UInt16.toNat_inj]
  by_cases same : a = b <;> simp [same]

lemma wasRead_clearLog (ram : Ram) (a : UInt16) : ram.clearLog.wasRead a = false :=
  Vector.getElem_replicate a.toNat_lt

lemma wasRead_run {α : Type} (program : BusProgram α) (ram : Ram) (address : UInt16) :
    (program.run ram).2.wasRead address = true ↔
      ram.wasRead address = true ∨ address ∈ program.reads ram := by
  induction program generalizing ram with
  | done value => simp [BusProgram.run, BusProgram.reads]
  | read cell next ih =>
    rw [BusProgram.run, BusProgram.reads, List.mem_cons]
    apply (ih _ _).trans
    show ((ram.markRead cell).wasRead address = true ∨ _) ↔ _
    rw [wasRead_markRead, Bool.or_eq_true, decide_eq_true_iff, eq_comm (a := cell), or_assoc,
      or_left_comm]
    rfl
  | write cell value next ih => exact ih _

end Ram

/-- The log marks what was read before, and what the instructions have read since. -/
lemma Machine.wasRead_after (machine : Machine Ram) (n : ℕ) (address : UInt16) :
    (machine.after n).bus.wasRead address = true ↔
      machine.bus.wasRead address = true ∨ address ∈ machine.reads n := by
  induction n with
  | zero => simp [reads]
  | succ n ih =>
    rw [reads_succ, List.mem_append, ← or_assoc, ← ih]
    exact Ram.wasRead_run (machine.after n).cpu.step (machine.after n).bus address

/-! ## Two memories under one run -/

namespace Ram

/-- The memories `m` and `n` have been through the same run since their logs were cleared, when they
were `first` and `second`. -/
structure Tracks (first second m n : Ram) : Prop where
  /-- The same addresses are marked as read, -/
  wasRead : ∀ address, m.wasRead address = n.wasRead address
  /-- and the same as written. -/
  wasWritten : ∀ address, m.wasWritten address = n.wasWritten address
  /-- A cell that was written holds the same byte in both. -/
  written : ∀ address, m.wasWritten address = true → m.peek address = n.peek address
  /-- Every other cell holds what it held. -/
  unwritten : ∀ address, m.wasWritten address = false →
    m.peek address = first.peek address ∧ n.peek address = second.peek address

variable {first second m n : Ram}

lemma tracks_clearLog (first second : Ram) :
    Tracks first second first.clearLog second.clearLog where
  wasRead address := by rw [wasRead_clearLog, wasRead_clearLog]
  wasWritten address := by rw [wasWritten_clearLog, wasWritten_clearLog]
  written address marked := by
    rw [wasWritten_clearLog] at marked
    cases marked
  unwritten _ _ := ⟨rfl, rfl⟩

/-- Where the memories agreed, they are read alike. -/
lemma Tracks.peek_eq (h : Tracks first second m n) {address : UInt16}
    (agree : first.peek address = second.peek address) : m.peek address = n.peek address := by
  cases marked : m.wasWritten address with
  | true => exact h.written address marked
  | false =>
    obtain ⟨one, two⟩ := h.unwritten address marked
    rw [one, two, agree]

lemma Tracks.markRead (h : Tracks first second m n) (cell : UInt16) :
    Tracks first second (m.markRead cell) (n.markRead cell) where
  wasRead address := by rw [wasRead_markRead, wasRead_markRead, h.wasRead]
  wasWritten := h.wasWritten
  written := h.written
  unwritten := h.unwritten

lemma Tracks.store (h : Tracks first second m n) (cell : UInt16) (value : UInt8) :
    Tracks first second ((m.markWritten cell).poke cell value)
      ((n.markWritten cell).poke cell value) where
  wasRead := h.wasRead
  wasWritten address := by
    show (m.markWritten cell).wasWritten address = (n.markWritten cell).wasWritten address
    rw [wasWritten_markWritten, wasWritten_markWritten, h.wasWritten]
  written address marked := by
    rw [peek_poke, peek_poke]
    by_cases same : cell = address
    · rw [if_pos same, if_pos same]
    · have before : m.wasWritten address = true := by
        have stored : (m.markWritten cell).wasWritten address = true := marked
        simpa [same] using stored
      rw [if_neg same, if_neg same]
      exact h.written address before
  unwritten address unmarked := by
    have stored : (m.markWritten cell).wasWritten address = false := unmarked
    obtain ⟨other, before⟩ : cell ≠ address ∧ m.wasWritten address = false := by
      simpa using stored
    rw [peek_poke, peek_poke, if_neg other, if_neg other]
    exact h.unwritten address before

lemma Tracks.simulation (first second : Ram) :
    Bus.SimulationOn (fun address => first.peek address = second.peek address) (fun _ => True)
      (Tracks first second) where
  read agree h := ⟨h.peek_eq agree, h.markRead _⟩
  write value _ h := h.store _ value

end Ram

namespace Machine

/-- **The read marks are a footprint.**  Take two machines in the same state with their logs
cleared, and let the first carry out any number of instructions.  If at first the memories agreed at
every address that is now marked as read, then the second machine does the same: each instruction
ends alike, the processors are in the same state, and the memories have been through the same
run. -/
theorem readMarks_footprint (first second : Machine Ram) (state : first.cpu.SameState second.cpu)
    (n : ℕ) (agree : ∀ address,
      ((first.mapBus Ram.clearLog).after n).bus.wasRead address = true →
        first.bus.peek address = second.bus.peek address) :
    let one := first.mapBus Ram.clearLog
    let two := second.mapBus Ram.clearLog
    (∀ k < n, (one.after k).step.1 = (two.after k).step.1) ∧
      (one.after n).cpu.SameState (two.after n).cpu ∧
      Ram.Tracks first.bus second.bus (one.after n).bus (two.after n).bus := by
  intro one two
  have cleared : one.cpu.SameState two.cpu := state
  apply cleared.after (Ram.Tracks.simulation first.bus second.bus) (Ram.tracks_clearLog _ _)
  · intro address read
    exact agree address ((one.wasRead_after n address).mpr (.inr read))
  · exact fun _ _ => trivial

/-! ### A cell that is written unread -/

/-- `LDA #$07` and `STA $0300`. -/
def blindStore : Machine Ram where
  cpu := .powerOn 0x0200
  bus := Ram.empty.load 0x0200 [0xA9, 0x07, 0x8D, 0x00, 0x03]

namespace blindStore

/-- The same program, fetched by a processor that came from elsewhere, with other bytes in a cell
that it overwrites and in one that it does not use. -/
def other : Machine Ram where
  cpu := { blindStore.cpu with fetchedAt := 0x1234 }
  bus := (blindStore.bus.poke 0x0300 0x99).poke 0x0301 0x55

lemma state : blindStore.cpu.SameState other.cpu :=
  ⟨rfl, rfl, rfl, rfl, rfl, rfl, rfl, rfl⟩

lemma reads_eq :
    (blindStore.mapBus Ram.clearLog).reads 2 = [0x0200, 0x0201, 0x0202, 0x0203, 0x0204] := by
  decide +kernel

lemma agree (address : UInt16)
    (read : ((blindStore.mapBus Ram.clearLog).after 2).bus.wasRead address = true) :
    blindStore.bus.peek address = other.bus.peek address := by
  have among : address ∈ (blindStore.mapBus Ram.clearLog).reads 2 := by
    apply ((wasRead_after _ 2 address).mp read).resolve_left
    rw [Bool.not_eq_true]
    exact Ram.wasRead_clearLog _ address
  rw [reads_eq] at among
  rw [other, Ram.peek_poke, Ram.peek_poke, if_neg, if_neg]
  · rintro rfl
    exact absurd among (by decide)
  · rintro rfl
    exact absurd among (by decide)

/-- The theorem there: one byte at `$0300` in the end, and at `$0301` each memory's own. -/
theorem stored_alike : blindStore.cpu.SameState other.cpu ∧
    ((other.mapBus Ram.clearLog).after 2).bus.peek 0x0300 = 0x07 ∧
    ((other.mapBus Ram.clearLog).after 2).bus.peek 0x0301 = 0x55 := by
  obtain ⟨-, -, tracks⟩ := readMarks_footprint blindStore other state 2 agree
  have stored : ((blindStore.mapBus Ram.clearLog).after 2).bus.peek 0x0300 = 0x07 := by
    decide +kernel
  have own : other.bus.peek 0x0301 = 0x55 := by simp [other]
  refine ⟨state, ?_, ?_⟩
  · rw [← tracks.written 0x0300 (by decide +kernel), stored]
  · rw [(tracks.unwritten 0x0301 (by decide +kernel)).2, own]

end blindStore

end Machine

end SidScore
