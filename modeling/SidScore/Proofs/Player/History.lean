import SidScore.Proofs.Memory.LastStored
import SidScore.Proofs.Player.Calls

/-!
# What calls leave in the registers

A player is asked for init and play in any order, and some of these calls may fail half way.  What
each of them has stored is its part of the player's history, whether it went through or not, and
nothing but the history decides what the registers of the chips hold: banking between the routines
is no store, and loading a tune clears the register file.

The configuration after a call is a matter of that call alone.  It keeps the routine's last choice
of BASIC and the KERNAL, and shows the registers, whatever the routine has chosen there.
-/

namespace SidScore

/-- What a player can be asked for. -/
inductive PlayerCall where
  /-- To run the init routine of a subtune, counted from 1. -/
  | init (subtune : UInt16)
  | play
  /-- To hand out the observed stores. -/
  | takeStores
  deriving Repr, DecidableEq

/-- The control byte with which the play routine is entered, given the one that is there. -/
def Setup.playControl (setup : Setup) (address : UInt16) (control : UInt8) : UInt8 :=
  match setup.file.header.format with
  | .psid => controlFor address
  | .rsid => control

lemma Setup.control_bankForPlay (setup : Setup) (address : UInt16) (memory : BankedMemory) :
    (setup.bankForPlay address memory).banking.control =
      setup.playControl address memory.banking.control := by
  unfold bankForPlay playControl
  cases setup.file.header.format with
  | psid => rfl
  | rsid => rfl

/-! ## Banking is no store -/

namespace BankedMemory

variable {memory other : BankedMemory} {register : UInt16}

/-- What a register reads as depends on the register file and on where the chips are. -/
lemma ioRegister_congr (registers : other.registers = memory.registers)
    (bases : other.sidBases = memory.sidBases) :
    other.ioRegister register = memory.ioRegister register := by
  have cell : other.registerCell register = memory.registerCell register := by
    rw [registerCell, registerCell, canonical_congr bases]
  rw [ioRegister, ioRegister, cell]
  unfold registerCell
  dsimp only
  split
  · rfl
  · exact congrArg (fun file => Vector.get file _) registers

lemma ioRegister_showIo : memory.showIo.ioRegister register = memory.ioRegister register := by
  unfold showIo
  split
  · rfl
  · exact ioRegister_congr rfl rfl

lemma ioRegister_bankForPlay (setup : Setup) (address : UInt16) :
    (setup.bankForPlay address memory).ioRegister register = memory.ioRegister register := by
  unfold Setup.bankForPlay
  split
  · exact ioRegister_congr rfl rfl
  · rfl

end BankedMemory

namespace Player

/-! ## Calls -/

section Calls

variable (player : Player)

def perform : PlayerCall → Player
  | .init subtune => (player.init subtune).state
  | .play => player.play.state
  | .takeStores => player.takeStores.2

/-- The player after a number of calls, one after the other. -/
def after (calls : List PlayerCall) : Player :=
  calls.foldl perform player

/-- The stores that the tune makes in a call.  Init does not start for a subtune that is not
there. -/
def storesIn : PlayerCall → List StoreRecord
  | .init subtune =>
    match player.setup.file.checkSubtune subtune with
    | .error _ => []
    | .ok _ => player.initStores subtune
  | .play => player.playStores
  | .takeStores => []

/-- The stores that the tune makes in a number of calls, in order. -/
def history (player : Player) : List PlayerCall → List StoreRecord
  | [] => []
  | call :: rest => player.storesIn call ++ (player.perform call).history rest

end Calls

variable {setup : Setup} {player : Player}

lemma after_concat (calls : List PlayerCall) (call : PlayerCall) :
    player.after (calls ++ [call]) = (player.after calls).perform call := by
  rw [after, List.foldl_append]
  rfl

lemma Fitted.perform (h : player.Fitted setup) (call : PlayerCall) :
    (player.perform call).Fitted setup := by
  cases call with
  | init subtune => exact h.init subtune
  | play => exact h.play
  | takeStores => exact h.takeStores

lemma Fitted.after (h : player.Fitted setup) (calls : List PlayerCall) :
    (player.after calls).Fitted setup := by
  induction calls generalizing player with
  | nil => exact h
  | cons call rest ih => exact ih (h.perform call)

lemma Fitted.canonical (h : player.Fitted setup) :
    player.machine.bus.canonical = setup.canonical :=
  BankedMemory.canonical_congr h.sidBases

/-- The registers of the header's chips are connected. -/
lemma Fitted.connected_register (h : player.Fitted setup) {base : UInt16}
    (hbase : base ∈ setup.file.header.chipBases) {register : UInt16}
    (own : Chip.IsRegister base register) : player.machine.bus.Connected register := by
  have legal := setup.file.header.legalBase_of_mem hbase
  have self := BankedMemory.canonical_of_inBlock h.sidBases hbase own.inBlock
  unfold Chip.LegalBase at legal
  unfold Chip.IsRegister at own
  refine ⟨?_, self, ?_⟩
  · simp only [BankedMemory.InRegisterArea, UInt16.le_iff_toNat_le, UInt16.lt_iff_toNat_lt,
      UInt16.reduceToNat]
    omega
  · -- The gaps of the area begin behind the last of a chip's registers.
    simp only [BankedMemory.hardwired, Bool.or_eq_false_iff, Bool.and_eq_false_iff,
      decide_eq_false_iff_not, UInt16.le_iff_toNat_le, UInt16.reduceToNat]
    omega

/-! ## One call -/

section Routine

variable {byte : BankedMemory → UInt8} {lands : StoreRecord → Bool}
  {machine : Machine BankedMemory} {outcome : Except TuneFault RoutineRun}

lemma initRun_lastStored (h : SetBy player.machine.bus.sidBases byte lands) {subtune : UInt16}
    (hrun : player.initRun subtune = (outcome, machine)) :
    byte machine.bus = lastStored lands (byte (enterInit player.setup subtune player.machine).bus)
      (player.initStores subtune) := by
  have same : (enterInit player.setup subtune player.machine).bus.sidBases =
      player.machine.bus.sidBases := rfl
  have left := h.runRoutine same .init player.setup.options.instructionLimit
  rw [← initRun, hrun] at left
  exact left

lemma playRun_lastStored (h : SetBy player.machine.bus.sidBases byte lands) {address : UInt16}
    (haddress : player.timing.playAddress = some address)
    (hrun : player.playRun address = (outcome, machine)) :
    byte machine.bus = lastStored lands (byte (player.setup.bankForPlay address player.machine.bus))
      player.playStores := by
  have same : (enterPlay player.setup address player.machine).bus.sidBases =
      player.machine.bus.sidBases :=
    (Journaled.bankForPlay player.setup address player.machine.bus).sidBases
  have left := h.runRoutine same .play player.setup.options.instructionLimit
  rw [← playRun, hrun] at left
  rw [playStores, haddress]
  exact left

end Routine

/-- **A call and a register.**  Whatever becomes of the call, the register holds the last byte that
reached it. -/
lemma ioRegister_perform {register : UInt16} (connected : player.machine.bus.Connected register)
    (call : PlayerCall) :
    (player.perform call).machine.bus.ioRegister register =
      lastStored (·.reaches player.machine.bus.canonical register)
        (player.machine.bus.ioRegister register) (player.storesIn call) := by
  cases call with
  | init subtune =>
    change (player.init subtune).state.machine.bus.ioRegister register = _
    -- Init is entered with another control byte and an empty log, which no register notices.
    have entered : (enterInit player.setup subtune player.machine).bus.ioRegister register =
        player.machine.bus.ioRegister register :=
      BankedMemory.ioRegister_congr rfl rfl
    cases check : player.setup.file.checkSubtune subtune with
    | error fault =>
      rw [init_refused check, storesIn, check]
      rfl
    | ok _ =>
      obtain ⟨outcome, machine, observed, hrun, -, memory⟩ := init_memory check
      have left := initRun_lastStored connected.setBy hrun
      rw [memory, storesIn, check, ← entered]
      exact (BankedMemory.ioRegister_congr rfl rfl).trans left
  | play =>
    change player.play.state.machine.bus.ioRegister register = _
    rcases player.play_cases with ⟨unknown, -, same⟩ | ⟨address, haddress,
      ⟨fault, machine, hrun, -, state⟩ | ⟨run, machine, hrun, -, state⟩⟩
    · rw [same, storesIn, playStores, unknown]
      rfl
    · have left := playRun_lastStored connected.setBy haddress hrun
      rw [BankedMemory.ioRegister_bankForPlay] at left
      rw [state]
      exact left
    · have left := playRun_lastStored connected.setBy haddress hrun
      rw [BankedMemory.ioRegister_bankForPlay] at left
      rw [state]
      exact BankedMemory.ioRegister_showIo.trans left
  | takeStores => exact BankedMemory.ioRegister_congr rfl rfl

/-- **The configuration after a call of the play routine** that went through: the registers show,
and BASIC and the KERNAL as the routine's last control byte has it. -/
lemma play_bank {count : ℕ} (h : player.play.result = .ok count) :
    ∃ address, player.timing.playAddress = some address ∧
      let control := lastStored (·.address == 1)
        (player.setup.playControl address player.machine.bus.banking.control) player.playStores
      player.play.state.machine.bus.banking.state =
        { BankState.ofControl control with io := true, charRom := false } := by
  rcases player.play_cases with ⟨-, fails, -⟩ | ⟨address, haddress,
    ⟨fault, machine, -, fails, -⟩ | ⟨run, machine, hrun, -, state⟩⟩
  · rw [fails] at h
    cases h
  · rw [fails] at h
    cases h
  · have left : machine.bus.banking.control = _ :=
      playRun_lastStored (BankedMemory.control_setBy _) haddress hrun
    rw [Setup.control_bankForPlay] at left
    refine ⟨address, haddress, ?_⟩
    intro control
    rw [state]
    refine machine.bus.state_showIo.trans ?_
    rw [Banking.state, left]

/-! ## All calls -/

variable {base register : UInt16}

lemma Fitted.ioRegister_after (h : player.Fitted setup) (hbase : base ∈ setup.file.header.chipBases)
    (own : Chip.IsRegister base register) (calls : List PlayerCall) :
    (player.after calls).machine.bus.ioRegister register =
      lastStored (·.reaches setup.canonical register) (player.machine.bus.ioRegister register)
        (player.history calls) := by
  induction calls generalizing player with
  | nil => exact (lastStored_nil _ _).symm
  | cons call rest ih =>
    have called := ioRegister_perform (h.connected_register hbase own) call
    rw [h.canonical] at called
    rw [history, lastStored_append, ← called]
    exact ih (h.perform call)

/-- Loading a tune clears the register file. -/
lemma ioRegister_of_load (h : Player.load setup = .ok player)
    (connected : player.machine.bus.Connected register) :
    player.machine.bus.ioRegister register = 0 := by
  rw [connected.ioRegister_eq]
  unfold Player.load at h
  split at h
  · cases h
    exact Vector.getElem_replicate (Nat.mod_lt register.toNat (Nat.zero_lt_succ 4095))
  · cases h

/-- **What the registers hold.**  After any calls of a tune that was loaded, a chip's register
holds the byte that was last stored, while the registers showed, to an address that decodes to
it. -/
lemma ioRegister_history (h : Player.load setup = .ok player)
    (hbase : base ∈ setup.file.header.chipBases) (own : Chip.IsRegister base register)
    (calls : List PlayerCall) :
    (player.after calls).machine.bus.ioRegister register =
      lastStored (·.reaches setup.canonical register) 0 (player.history calls) := by
  have fitted := (Reached.load h).fitted
  rw [fitted.ioRegister_after hbase own calls,
    ioRegister_of_load h (fitted.connected_register hbase own)]

end Player

end SidScore
