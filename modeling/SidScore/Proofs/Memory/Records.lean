import Mathlib.Data.List.DropRight
import SidScore.Proofs.Memory.Footprint
import SidScore.Proofs.Memory.LastWrite

/-!
# What the records of a memory report

The memory keeps two records of its accesses: the log, which marks addresses, and the list of the
stores under observation.  The player takes them for reports of what a routine has done.  They are,
of the processor's accesses and of nothing else: bytes are poked, programs loaded and the
configuration set without a mark, and an access is marked under the address that the processor put
on the bus, wherever it ended up.

What the records ought to hold is read off the list of what was done.  The log reports the actions
since it was last cleared, `sinceCleared`; the list reports those since it was last emptied, which
happens when it is taken and when the observer is pointed at another window, `sinceEmptied`.
-/

namespace SidScore

/-! ## What can be done -/

/-- What can be done to the memory and to its records. -/
inductive MemoryAction where
  /-- The memory is accessed, or its configuration set. -/
  | operation (operation : MemoryOperation)
  /-- A byte is put into plain memory. -/
  | poke (address : UInt16) (value : UInt8)
  /-- Bytes are put into plain memory, one behind the other. -/
  | load (address : UInt16) (bytes : List UInt8)
  /-- The log is cleared. -/
  | clearLog
  /-- The observer is pointed at a window. -/
  | observe (window : Window)
  /-- The observed stores are taken. -/
  | takeObserved
  deriving Repr, DecidableEq

namespace BankedMemory

/-- The memory after an action. -/
def act (memory : BankedMemory) : MemoryAction → BankedMemory
  | .operation operation => memory.apply operation
  | .poke address value => { memory with ram := memory.ram.poke address value }
  | .load address bytes => memory.loadRam address bytes
  | .clearLog => memory.clearLog
  | .observe window => memory.observe window
  | .takeObserved => memory.takeObserved.2

/-- The memory after a number of actions. -/
def actAll (memory : BankedMemory) (actions : List MemoryAction) : BankedMemory :=
  actions.foldl act memory

end BankedMemory

/-! ## What there is to report -/

namespace MemoryAction

/-- The store that the processor makes. -/
def store? : MemoryAction → Option Store
  | .operation (.write address value) => some ⟨address, value⟩
  | _ => none

/-- The window that the observer is pointed at. -/
def window? : MemoryAction → Option Window
  | .observe window => some window
  | _ => none

/-- The log is emptied. -/
def clears : MemoryAction → Bool
  | .clearLog => true
  | _ => false

/-- The list of observed stores is emptied. -/
def empties : MemoryAction → Bool
  | .observe _ | .takeObserved => true
  | _ => false

/-- The actions since the log was last emptied. -/
def sinceCleared (actions : List MemoryAction) : List MemoryAction :=
  actions.rtakeWhile (!·.clears)

/-- The actions since the list of observed stores was last emptied. -/
def sinceEmptied (actions : List MemoryAction) : List MemoryAction :=
  actions.rtakeWhile (!·.empties)

/-- The window that the observer was pointed at last. -/
def currentWindow (actions : List MemoryAction) : Option Window :=
  (actions.filterMap window?).getLast?

/-- The stores within a window, in order.  Without a window there are none. -/
def storesWithin (window : Option Window) (actions : List MemoryAction) : List Store :=
  (actions.filterMap store?).filter fun store => window.any (·.contains store.address)

variable (actions : List MemoryAction) (action : MemoryAction)

lemma sinceCleared_concat : sinceCleared (actions ++ [action]) =
    if action.clears then [] else sinceCleared actions ++ [action] := by
  simp only [sinceCleared, List.rtakeWhile_concat]
  cases action.clears <;> simp

lemma sinceEmptied_concat : sinceEmptied (actions ++ [action]) =
    if action.empties then [] else sinceEmptied actions ++ [action] := by
  simp only [sinceEmptied, List.rtakeWhile_concat]
  cases action.empties <;> simp

lemma currentWindow_concat :
    currentWindow (actions ++ [action]) = action.window?.or (currentWindow actions) := by
  simp only [currentWindow, List.filterMap_append, List.getLast?_append]
  cases h : action.window? <;> simp [h]

lemma storesWithin_concat (window : Option Window) :
    storesWithin window (actions ++ [action]) = storesWithin window actions ++
      action.store?.toList.filter fun store => window.any (·.contains store.address) := by
  simp only [storesWithin, List.filterMap_append, List.filter_append]
  cases h : action.store? <;> simp [h]

variable {action}

/-- Only a new window moves the observer. -/
lemma window?_of_empties_eq_false (h : action.empties = false) : action.window? = none := by
  cases action with
  | observe window => simp [empties] at h
  | _ => rfl

end MemoryAction

open MemoryAction

/-! ## What an action leaves of the records -/

lemma Ram.logs_load (ram : Ram) (address : UInt16) (bytes : List UInt8) :
    (ram.load address bytes).readLog = ram.readLog ∧
      (ram.load address bytes).writeLog = ram.writeLog := by
  induction bytes generalizing ram address with
  | nil => exact ⟨rfl, rfl⟩
  | cons byte rest ih => exact ih (ram.poke address byte) (address + 1)

namespace BankedMemory

/-- The records of two memories are the same. -/
structure SameRecords (memory after : BankedMemory) : Prop where
  readLog : after.ram.readLog = memory.ram.readLog
  writeLog : after.ram.writeLog = memory.ram.writeLog
  window : after.window = memory.window
  observed : after.observed = memory.observed

/-- The records of a memory before an action and of the memory after it. -/
structure Recorded (memory : BankedMemory) (action : MemoryAction) (after : BankedMemory) :
    Prop where
  /-- A read is marked under the address on the bus, -/
  wasRead : ∀ address, after.ram.wasRead address = true ↔
    action = .operation (.read address) ∨ action.clears = false ∧ memory.ram.wasRead address = true
  /-- and so is a write. -/
  wasWritten : ∀ address, after.wasWritten address = true ↔
    (∃ value, action = .operation (.write address value)) ∨
      action.clears = false ∧ memory.wasWritten address = true
  /-- The observer looks where it looked until it is pointed elsewhere. -/
  window : after.window = action.window?.or memory.window
  /-- A store in its window goes to the end of the list. -/
  observed : after.observed.toList =
    if action.empties then [] else memory.observed.toList ++
      action.store?.toList.filter fun store => memory.observes store.address

section Actions

variable (memory : BankedMemory)

lemma sameRecords_put (cell : Cell) (value : UInt8) :
    memory.SameRecords (memory.put cell value) := by
  cases cell <;> exact ⟨rfl, rfl, rfl, rfl⟩

lemma sameRecords_showIo : memory.SameRecords memory.showIo := by
  unfold showIo
  split
  · exact ⟨rfl, rfl, rfl, rfl⟩
  · exact memory.sameRecords_put .control _

lemma sameRecords_loadRam (address : UInt16) (bytes : List UInt8) :
    memory.SameRecords (memory.loadRam address bytes) := by
  obtain ⟨readLog, writeLog⟩ := memory.ram.logs_load address bytes
  exact ⟨readLog, writeLog, rfl, rfl⟩

/-- A write is no read. -/
lemma wasRead_store (address other : UInt16) (value : UInt8) :
    (memory.store address value).ram.wasRead other = memory.ram.wasRead other := by
  have put := (sameRecords_put ((memory.observeStore address value).markWritten address)
    (((memory.observeStore address value).markWritten address).target address) value).readLog
  rw [← store, observeStore_eq] at put
  rw [Ram.wasRead, put]
  rfl

variable {memory}

/-- An action that is no access, and does not concern the records, leaves them alone. -/
lemma SameRecords.recorded {after : BankedMemory} (same : memory.SameRecords after)
    {action : MemoryAction} (read : ∀ address, action ≠ .operation (.read address))
    (write : ∀ address value, action ≠ .operation (.write address value))
    (clears : action.clears = false) (empties : action.empties = false) :
    memory.Recorded action after where
  wasRead address := by simp [read, clears, Ram.wasRead, same.readLog]
  wasWritten address := by simp [write, clears, wasWritten, Ram.wasWritten, same.writeLog]
  window := by simp [window?_of_empties_eq_false empties, same.window]
  observed := by
    have silent : action.store? = none := by
      unfold store?
      split
      · next address value => exact absurd rfl (write address value)
      · rfl
    simp [empties, silent, same.observed]

variable (memory)

lemma recorded_read (address : UInt16) :
    memory.Recorded (.operation (.read address)) (memory.markRead address) where
  wasRead other := by
    show (memory.ram.markRead address).wasRead other = true ↔ _
    simp [clears]
  wasWritten other := by
    show memory.wasWritten other = true ↔ _
    simp [clears]
  window := rfl
  observed := by simp [empties, store?, markRead]

lemma recorded_write (address : UInt16) (value : UInt8) :
    memory.Recorded (.operation (.write address value)) (memory.store address value) where
  wasRead other := by simp [wasRead_store, clears]
  wasWritten other := by simp [wasWritten_store, clears]
  window := by simp [window_store, window?]
  observed := by
    rw [observed_store]
    by_cases within : memory.observes address = true
    · simp [within, empties, store?]
    · simp [within, empties, store?]

lemma recorded_clearLog : memory.Recorded .clearLog memory.clearLog where
  wasRead address := by simp [clearLog, clears, Ram.wasRead_clearLog]
  wasWritten address := by simp [clearLog, clears, wasWritten, Ram.wasWritten_clearLog]
  window := rfl
  observed := by simp [clearLog, empties, store?]

/-- What every action does to the records. -/
lemma recorded_act (action : MemoryAction) : memory.Recorded action (memory.act action) := by
  cases action with
  | operation operation =>
    cases operation with
    | read address => exact memory.recorded_read address
    | write address value => exact memory.recorded_write address value
    | peek address =>
      have same : memory.SameRecords memory := ⟨rfl, rfl, rfl, rfl⟩
      exact same.recorded (by simp) (by simp) rfl rfl
    | setControl value =>
      exact (memory.sameRecords_put .control value).recorded (by simp) (by simp) rfl rfl
    | showIo => exact memory.sameRecords_showIo.recorded (by simp) (by simp) rfl rfl
  | poke address value =>
    have same : memory.SameRecords (memory.act (.poke address value)) := ⟨rfl, rfl, rfl, rfl⟩
    exact same.recorded (by simp) (by simp) rfl rfl
  | load address bytes =>
    exact (memory.sameRecords_loadRam address bytes).recorded (by simp) (by simp) rfl rfl
  | clearLog => exact memory.recorded_clearLog
  | observe window =>
    refine ⟨fun address => ?_, fun address => ?_, rfl, rfl⟩
    · simp [act, observe, clears]
    · simp [act, observe, clears, wasWritten]
  | takeObserved =>
    refine ⟨fun address => ?_, fun address => ?_, rfl, rfl⟩
    · simp [act, takeObserved, clears]
    · simp [act, takeObserved, clears, wasWritten]

end Actions

end BankedMemory

/-! ## What the records report -/

/-- What the records of a memory tell of all the actions since it was new. -/
structure Reports (actions : List MemoryAction) (memory : BankedMemory) : Prop where
  wasRead : ∀ address, memory.ram.wasRead address = true ↔
    .operation (.read address) ∈ sinceCleared actions
  wasWritten : ∀ address, memory.wasWritten address = true ↔
    ∃ value, .operation (.write address value) ∈ sinceCleared actions
  window : memory.window = currentWindow actions
  observed : memory.observed.toList = storesWithin (currentWindow actions) (sinceEmptied actions)

namespace Reports

variable {actions : List MemoryAction} {memory : BankedMemory}

/-- A new memory has nothing to report. -/
lemma powerOn (fitting : Fitting) : Reports [] fitting.powerOn where
  wasRead address := by
    have unread : fitting.powerOn.ram.wasRead address = false :=
      Ram.wasRead_clearLog fitting.powerOn.ram address
    simp [unread, sinceCleared]
  wasWritten address := by
    have unwritten : fitting.powerOn.wasWritten address = false :=
      Ram.wasWritten_clearLog fitting.powerOn.ram address
    simp [unwritten, sinceCleared]
  window := rfl
  observed := rfl

/-- **One more action** is reported as what it is. -/
lemma act (h : Reports actions memory) (action : MemoryAction) :
    Reports (actions ++ [action]) (memory.act action) := by
  have recorded := memory.recorded_act action
  refine ⟨fun address => ?_, fun address => ?_, ?_, ?_⟩
  · rw [recorded.wasRead, h.wasRead, sinceCleared_concat]
    cases clears : action.clears with
    | true =>
      have other : action ≠ .operation (.read address) := by
        rintro rfl
        cases clears
      simp [other]
    | false => simp [or_comm, eq_comm]
  · rw [recorded.wasWritten, h.wasWritten, sinceCleared_concat]
    cases clears : action.clears with
    | true =>
      have other (value : UInt8) : action ≠ .operation (.write address value) := by
        rintro rfl
        cases clears
      simp [other]
    | false => simp [or_comm, eq_comm, exists_or]
  · rw [recorded.window, h.window, currentWindow_concat]
  · rw [recorded.observed, h.observed, sinceEmptied_concat, currentWindow_concat]
    cases empties : action.empties with
    | true => simp [storesWithin]
    | false =>
      -- The window stays, so the list goes on within it.
      have observes : memory.observes = fun address =>
          (currentWindow actions).any (·.contains address) := by
        funext address
        rw [BankedMemory.observes, h.window]
      simp [window?_of_empties_eq_false empties, storesWithin_concat, observes]

/-- The records of a new memory report all that it has been through. -/
lemma actAll (fitting : Fitting) (actions : List MemoryAction) :
    Reports actions (fitting.powerOn.actAll actions) := by
  induction actions using List.reverseRecOn with
  | nil => exact powerOn fitting
  | append_singleton actions action ih =>
    have next := ih.act action
    rw [BankedMemory.actAll, List.foldl_concat]
    exact next

end Reports

/-- **The records report the accesses and nothing else.**  Take a memory with any ROMs and any
chips, and whatever has been done to it since it was new.  An address is marked as read, or as
written, if the processor has read it, or written to it, since the log was last cleared: that very
address, whatever showed there and whichever register it decodes to.  And who takes the observed
stores is given those that the processor has made within the window since the observer was pointed
at it or the stores were taken, each of them once and in order. -/
theorem records_report_accesses (fitting : Fitting) (actions : List MemoryAction) :
    let memory := fitting.powerOn.actAll actions
    (∀ address, memory.ram.wasRead address = true ↔
      .operation (.read address) ∈ sinceCleared actions) ∧
    (∀ address, memory.wasWritten address = true ↔
      ∃ value, .operation (.write address value) ∈ sinceCleared actions) ∧
    memory.takeObserved.1.toList =
      storesWithin (currentWindow actions) (sinceEmptied actions) := by
  intro memory
  have reports : Reports actions memory := Reports.actAll fitting actions
  exact ⟨reports.wasRead, reports.wasWritten, reports.observed⟩

/-- A store under the registers is marked and listed like any other, and one outside the window is
only marked.  Loading a program leaves no mark. -/
example :
    let actions : List MemoryAction := [.observe ⟨0xD400, 0xD7FF⟩, .operation (.write 0xD404 0x41),
      .takeObserved, .clearLog, .load 0x1000 [0xA9, 0x01], .operation (.setControl 0x34),
      .operation (.write 0xD424 0x40), .operation (.write 0x0002 0x01)]
    storesWithin (currentWindow actions) (sinceEmptied actions) = [⟨0xD424, 0x40⟩] ∧
      (sinceCleared actions).filterMap store? = [⟨0xD424, 0x40⟩, ⟨0x0002, 0x01⟩] := by
  decide

end SidScore
