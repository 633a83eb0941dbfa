import SidScore.Proofs.Chip.Decoding
import SidScore.Proofs.Memory.Journal
import SidScore.Proofs.Word

/-!
# What a player's calls store

The two routines of a tune are run with some care around them: the log is cleared and a
configuration set before, registers are made to show and observed stores are dropped after.  None
of this is a store of the tune.  So the records of the memory after a call are told from those
before it and from the stores that the routine itself made, `Player.initStores` and
`Player.playStores`.

`Player.Reached` are the players that calls lead to, failing calls included.  All of them have the
chips where the header places them and the observer looking at all of these.
-/

namespace SidScore

/-- The register that an address decodes to on the machine of a tune. -/
def Setup.canonical (setup : Setup) : UInt16 → UInt16 :=
  setup.loadedMemory.canonical

/-! ## Around a routine -/

namespace Journaled

variable {first second third : BankedMemory} {early late : List StoreRecord}

lemma trans (h : Journaled first second early) (h' : Journaled second third late) :
    Journaled first third (early ++ late) where
  sidBases := h'.sidBases.trans h.sidBases
  window := h'.window.trans h.window
  wasWritten address := by
    rw [h'.wasWritten, h.wasWritten]
    simp only [List.mem_append, or_and_right, exists_or]
    exact or_assoc
  observed := by
    have observes (address : UInt16) : second.observes address = first.observes address := by
      rw [BankedMemory.observes, h.window]
      rfl
    rw [h'.observed, h.observed, List.append_assoc]
    simp only [observes, List.filter_append, List.map_append]

/-- Setting the control byte is no store. -/
lemma setControl (memory : BankedMemory) (value : UInt8) :
    Journaled memory (memory.setControl value) [] :=
  ⟨rfl, rfl, (refl memory).wasWritten, (refl memory).observed⟩

lemma showIo (memory : BankedMemory) : Journaled memory memory.showIo [] := by
  unfold BankedMemory.showIo
  split
  · exact refl memory
  · exact setControl memory _

lemma bankForPlay (setup : Setup) (address : UInt16) (memory : BankedMemory) :
    Journaled memory (setup.bankForPlay address memory) [] := by
  unfold Setup.bankForPlay
  split
  · exact setControl memory _
  · exact refl memory

end Journaled

namespace BankedMemory

/-- Once the registers were made to show, BASIC and the KERNAL show as they did. -/
lemma state_showIo (memory : BankedMemory) :
    memory.showIo.banking.state = { memory.banking.state with io := true, charRom := false } := by
  have shown : memory.showIo.banking.state =
      BankState.ofControl (⟨0, memory.banking.control⟩ : Banking).controlShowingIo := by
    unfold showIo
    split
    · next io => exact congrArg BankState.ofControl (if_pos io).symm
    · rfl
  rw [shown]
  exact forall_byte (P := fun control =>
    BankState.ofControl (⟨0, control⟩ : Banking).controlShowingIo =
      { BankState.ofControl control with io := true, charRom := false })
    (by decide +kernel) memory.banking.control

lemma io_showIo (memory : BankedMemory) : memory.showIo.banking.state.io = true := by
  rw [state_showIo]

end BankedMemory

/-! ## What a call can come to -/

lemma eq_ok_of_isOk {outcome : Except TuneFault Unit} (h : outcome.isOk = true) :
    outcome = .ok () := by
  cases outcome with
  | ok _ => rfl
  | error _ => cases h

namespace Player

/-- A run of the init routine of a subtune. -/
def initRun (player : Player) (subtune : UInt16) :
    Except TuneFault RoutineRun × Machine BankedMemory :=
  (enterInit player.setup subtune player.machine).runRoutine .init
    player.setup.options.instructionLimit

/-- A run of the play routine at an address. -/
def playRun (player : Player) (address : UInt16) :
    Except TuneFault RoutineRun × Machine BankedMemory :=
  (enterPlay player.setup address player.machine).runRoutine .play
    player.setup.options.instructionLimit

variable {player : Player}

/-- Once init ended, the play routine is known or it is not. -/
lemma settle_cases (setup : Setup) (machine : Machine BankedMemory) (timing : Timing)
    (notices : List Notice) :
    (∃ address, setup.playAddress? machine.bus = some address ∧
      (settle setup machine timing notices).result = .ok () ∧
      (settle setup machine timing notices).state =
        ⟨setup, ⟨machine.cpu, machine.bus.takeObserved.2⟩,
          { setup.adoptLatch machine.bus timing with playAddress := some address }⟩) ∨
    setup.playAddress? machine.bus = none ∧
      (settle setup machine timing notices).result =
        .error (.noPlayAddress setup.file.initAddress) ∧
      (settle setup machine timing notices).state =
        ⟨setup, machine, setup.adoptLatch machine.bus timing⟩ := by
  unfold settle
  dsimp only
  split
  · next address haddress => exact .inl ⟨address, haddress, rfl, rfl⟩
  · next unknown => exact .inr ⟨unknown, rfl, rfl⟩

/-- A call of init does not start, or its routine fails, or the routine ends and is settled. -/
lemma init_cases (player : Player) (subtune : UInt16) :
    (∃ fault, player.setup.file.checkSubtune subtune = .error fault ∧
      player.init subtune = ⟨.error fault, player, []⟩) ∨
    player.setup.file.checkSubtune subtune = .ok () ∧
      ((∃ fault machine, player.initRun subtune = (.error fault, machine) ∧
        (player.init subtune).result = .error fault ∧
        (player.init subtune).state = { player with machine }) ∨
      ∃ run machine notices, player.initRun subtune = (.ok run, machine) ∧
        player.init subtune = settle player.setup machine player.timing notices) := by
  unfold init
  split
  · next fault hcheck => exact .inl ⟨fault, hcheck, rfl⟩
  · next hcheck =>
    refine .inr ⟨hcheck, ?_⟩
    dsimp only
    split
    · next fault machine hrun => exact .inl ⟨fault, machine, hrun, rfl, rfl⟩
    · next run machine hrun => exact .inr ⟨run, machine, _, hrun, rfl⟩

lemma init_refused {subtune : UInt16} {fault : TuneFault}
    (check : player.setup.file.checkSubtune subtune = .error fault) :
    player.init subtune = ⟨.error fault, player, []⟩ := by
  rw [init, check]

/-- Whatever becomes of a call of init that starts, it leaves the memory as the routine does, but
for the list of observed stores. -/
lemma init_memory {subtune : UInt16} (check : player.setup.file.checkSubtune subtune = .ok ()) :
    ∃ outcome machine observed, player.initRun subtune = (outcome, machine) ∧
      (player.init subtune).state.setup = player.setup ∧
      (player.init subtune).state.machine.bus = { machine.bus with observed } := by
  rcases player.init_cases subtune with
    ⟨fault, refused, -⟩ |
      ⟨-, ⟨fault, machine, hrun, -, state⟩ | ⟨run, machine, notices, hrun, same⟩⟩
  · rw [check] at refused
    cases refused
  · refine ⟨_, machine, machine.bus.observed, hrun, ?_⟩
    rw [state]
    exact ⟨rfl, rfl⟩
  · rw [same]
    rcases settle_cases player.setup machine player.timing notices with
      ⟨address, -, -, state⟩ | ⟨-, -, state⟩
    · refine ⟨_, machine, #[], hrun, ?_⟩
      rw [state]
      exact ⟨rfl, rfl⟩
    · refine ⟨_, machine, machine.bus.observed, hrun, ?_⟩
      rw [state]
      exact ⟨rfl, rfl⟩

/-- In an init that goes through, the routine ends and the play routine is known. -/
lemma exists_of_init_ok {subtune : UInt16}
    (h : (player.init subtune).result = .ok ()) :
    ∃ run machine address, player.setup.file.checkSubtune subtune = .ok () ∧
      player.initRun subtune = (.ok run, machine) ∧
      player.setup.playAddress? machine.bus = some address := by
  rcases player.init_cases subtune with
    ⟨fault, -, same⟩ | ⟨check, ⟨fault, machine, -, fails, -⟩ | ⟨run, machine, notices, hrun, same⟩⟩
  · simp [same] at h
  · simp [fails] at h
  · rw [same] at h
    rcases settle_cases player.setup machine player.timing notices with
      ⟨address, haddress, -, -⟩ | ⟨-, fails, -⟩
    · exact ⟨run, machine, address, check, hrun, haddress⟩
    · simp [fails] at h

/-- What such an init leaves. -/
lemma init_of_ended {subtune address : UInt16} {run : RoutineRun} {machine : Machine BankedMemory}
    (check : player.setup.file.checkSubtune subtune = .ok ())
    (hrun : player.initRun subtune = (.ok run, machine))
    (haddress : player.setup.playAddress? machine.bus = some address) :
    (player.init subtune).result = .ok () ∧ (player.init subtune).state =
      ⟨player.setup, ⟨machine.cpu, machine.bus.takeObserved.2⟩,
        { player.setup.adoptLatch machine.bus player.timing with
          playAddress := some address }⟩ := by
  rcases player.init_cases subtune with
    ⟨fault, refused, -⟩ | ⟨-, ⟨fault, machine, fails, -, -⟩ | ⟨_, _, notices, hrun', same⟩⟩
  · simp [check] at refused
  · simp [hrun] at fails
  · obtain ⟨-, rfl⟩ := Prod.mk.inj (hrun.symm.trans hrun')
    rw [same]
    rcases settle_cases player.setup machine player.timing notices with
      ⟨_, known, result, state⟩ | ⟨unknown, -, -⟩
    · obtain rfl : address = _ := Option.some.inj (haddress.symm.trans known)
      exact ⟨result, state⟩
    · simp [haddress] at unknown

/-- A call of the play routine does not start, or the routine fails, or it ends and the registers
are made to show. -/
lemma play_cases (player : Player) :
    (player.timing.playAddress = none ∧
      player.play.result = .error (.noPlayAddress player.setup.file.initAddress) ∧
      player.play.state = player) ∨
    ∃ address, player.timing.playAddress = some address ∧
      ((∃ fault machine, player.playRun address = (.error fault, machine) ∧
        player.play.result = .error fault ∧ player.play.state = { player with machine }) ∨
      ∃ run machine, player.playRun address = (.ok run, machine) ∧
        player.play.result = .ok run.instructions ∧
        player.play.state = { player with machine := machine.mapBus BankedMemory.showIo }) := by
  unfold play
  split
  · next unknown => exact .inl ⟨unknown, rfl, rfl⟩
  · next address haddress =>
    refine .inr ⟨address, haddress, ?_⟩
    dsimp only
    split
    · next fault machine hrun => exact .inl ⟨fault, machine, hrun, rfl, rfl⟩
    · next run machine hrun => exact .inr ⟨run, machine, hrun, rfl, rfl⟩

/-! ## The stores of a call -/

/-- The stores that the init routine of a subtune makes. -/
def initStores (player : Player) (subtune : UInt16) : List StoreRecord :=
  (enterInit player.setup subtune player.machine).stores .init
    player.setup.options.instructionLimit

/-- The stores that the next call of the play routine makes. -/
def playStores (player : Player) : List StoreRecord :=
  match player.timing.playAddress with
  | none => []
  | some address =>
    (enterPlay player.setup address player.machine).stores .play
      player.setup.options.instructionLimit

variable {machine : Machine BankedMemory} {outcome : Except TuneFault RoutineRun}

/-- The records after a run of init, successful or not. -/
lemma initRun_journaled {subtune : UInt16} (hrun : player.initRun subtune = (outcome, machine)) :
    Journaled (enterInit player.setup subtune player.machine).bus machine.bus
      (player.initStores subtune) := by
  have journaled := Journaled.runRoutine (enterInit player.setup subtune player.machine) .init
    player.setup.options.instructionLimit
  rw [← initRun, hrun] at journaled
  exact journaled

/-- The records after a run of the play routine, successful or not. -/
lemma playRun_journaled {address : UInt16} (haddress : player.timing.playAddress = some address)
    (hrun : player.playRun address = (outcome, machine)) :
    Journaled player.machine.bus machine.bus player.playStores := by
  have before := Journaled.bankForPlay player.setup address player.machine.bus
  have routine := Journaled.runRoutine (enterPlay player.setup address player.machine) .play
    player.setup.options.instructionLimit
  rw [← playRun, hrun] at routine
  have all := before.trans routine
  rw [List.nil_append] at all
  rw [playStores, haddress]
  exact all

/-- What a successful init leaves. -/
structure InitLeaves (player after : Player) (stores : List StoreRecord) : Prop where
  setup : after.setup = player.setup
  sidBases : after.machine.bus.sidBases = player.machine.bus.sidBases
  window : after.machine.bus.window = player.machine.bus.window
  wasWritten : ∀ address, after.machine.bus.wasWritten address = true ↔
    ∃ record ∈ stores, record.address = address
  observed : after.machine.bus.observed = #[]

lemma initLeaves {subtune : UInt16} (h : (player.init subtune).result = .ok ()) :
    InitLeaves player (player.init subtune).state (player.initStores subtune) := by
  obtain ⟨run, machine, address, check, hrun, haddress⟩ := exists_of_init_ok h
  obtain ⟨-, state⟩ := init_of_ended check hrun haddress
  have journaled := initRun_journaled hrun
  -- Init is entered with an empty log.
  have unwritten (address : UInt16) :
      (enterInit player.setup subtune player.machine).bus.wasWritten address = false :=
    Ram.wasWritten_clearLog _ address
  rw [state]
  refine ⟨rfl, journaled.sidBases, journaled.window, fun address => ?_, rfl⟩
  refine (journaled.wasWritten address).trans ?_
  rw [unwritten]
  simp only [Bool.false_eq_true, false_or]

/-- **A call of the play routine.**  The records tell of the routine's stores and of no others, and
the registers show. -/
lemma play_journaled {count : ℕ} (h : player.play.result = .ok count) :
    Journaled player.machine.bus player.play.state.machine.bus player.playStores ∧
      player.play.state.machine.bus.banking.state.io = true ∧
      player.play.state.setup = player.setup := by
  rcases player.play_cases with ⟨-, fails, -⟩ | ⟨address, haddress,
    ⟨fault, machine, -, fails, -⟩ | ⟨run, machine, hrun, -, state⟩⟩
  · rw [fails] at h
    cases h
  · rw [fails] at h
    cases h
  · have all := (playRun_journaled haddress hrun).trans (Journaled.showIo machine.bus)
    rw [List.append_nil] at all
    rw [state]
    exact ⟨all, BankedMemory.io_showIo machine.bus, rfl⟩

/-- A call of the play routine adds its stores to those listed, whatever becomes of it. -/
lemma observed_play (player : Player) :
    player.play.state.machine.bus.observed.toList = player.machine.bus.observed.toList ++
      (player.playStores.filter fun record =>
        player.machine.bus.observes record.address).map StoreRecord.toStore := by
  rcases player.play_cases with ⟨unknown, -, same⟩ | ⟨address, haddress,
    ⟨fault, machine, hrun, -, state⟩ | ⟨run, machine, hrun, -, state⟩⟩
  · rw [same, playStores, unknown]
    simp
  · rw [state]
    exact (playRun_journaled haddress hrun).observed
  · have shown := (playRun_journaled haddress hrun).trans (Journaled.showIo machine.bus)
    rw [List.append_nil] at shown
    rw [state]
    exact shown.observed

/-! ## Players that calls lead to -/

/-- The player of a tune whose program lies within memory. -/
def loaded (setup : Setup) : Player where
  setup
  machine := (Machine.powerOn setup.loadedMemory).mapCpu fun cpu =>
    { cpu with exitPolicy := .whenStackEmpty setup.options.stackWrapZone }
  timing := .initial

lemma load_of_fits {setup : Setup} (h : setup.fits = true) : load setup = .ok (loaded setup) :=
  if_pos h

lemma load_of_not_fits {setup : Setup} (h : setup.fits = false) : load setup =
    .error (.programTooLarge setup.file.program.length setup.file.loadAddress) :=
  if_neg (Bool.not_eq_true _ ▸ h)

/-- The player of a tune that was loaded, after any calls of its routines, failing ones
included. -/
inductive Reached (setup : Setup) : Player → Prop where
  /-- The tune was loaded. -/
  | load {player : Player} (h : Player.load setup = .ok player) : Reached setup player
  /-- Init was called. -/
  | init {player : Player} (h : Reached setup player) (subtune : UInt16) :
    Reached setup (player.init subtune).state
  /-- The play routine was called. -/
  | play {player : Player} (h : Reached setup player) : Reached setup player.play.state
  /-- The observed stores were taken. -/
  | takeStores {player : Player} (h : Reached setup player) : Reached setup player.takeStores.2

/-- The chips are where the header of the tune places them, and the observer looks at all of
them. -/
structure Fitted (setup : Setup) (player : Player) : Prop where
  plays : player.setup = setup
  sidBases : player.machine.bus.sidBases = setup.file.header.chipBases
  window : player.machine.bus.window =
    some (Setup.chipWindow setup.file.header.chipBases player.machine.bus.firstChipRepeats)

variable {setup : Setup}

/-- What is fitted stays so while setup, bases and window stay. -/
lemma Fitted.of_same {after : Player} (h : player.Fitted setup)
    (sameSetup : after.setup = player.setup)
    (sameBases : after.machine.bus.sidBases = player.machine.bus.sidBases)
    (sameWindow : after.machine.bus.window = player.machine.bus.window) : after.Fitted setup where
  plays := sameSetup.trans h.plays
  sidBases := sameBases.trans h.sidBases
  window := by
    rw [sameWindow, h.window, BankedMemory.firstChipRepeats, BankedMemory.firstChipRepeats,
      sameBases]

lemma Fitted.init (h : player.Fitted setup) (subtune : UInt16) :
    (player.init subtune).state.Fitted setup := by
  cases check : player.setup.file.checkSubtune subtune with
  | error fault =>
    rw [init_refused check]
    exact h
  | ok _ =>
    obtain ⟨outcome, machine, observed, hrun, sameSetup, memory⟩ := init_memory check
    have journaled := initRun_journaled hrun
    refine h.of_same sameSetup ?_ ?_
    · rw [memory]
      exact journaled.sidBases
    · rw [memory]
      exact journaled.window

lemma Fitted.play (h : player.Fitted setup) : player.play.state.Fitted setup := by
  rcases player.play_cases with ⟨-, -, same⟩ | ⟨address, haddress,
    ⟨fault, machine, hrun, -, state⟩ | ⟨run, machine, hrun, -, state⟩⟩
  · rw [same]
    exact h
  · have journaled := playRun_journaled haddress hrun
    rw [state]
    exact h.of_same rfl journaled.sidBases journaled.window
  · have shown := (playRun_journaled haddress hrun).trans (Journaled.showIo machine.bus)
    rw [state]
    exact h.of_same rfl shown.sidBases shown.window

lemma Fitted.takeStores (h : player.Fitted setup) : player.takeStores.2.Fitted setup :=
  h.of_same rfl rfl rfl

/-- Every player that calls lead to is fitted. -/
lemma Reached.fitted (h : player.Reached setup) : player.Fitted setup := by
  induction h with
  | load h =>
    unfold Player.load at h
    split at h
    · cases h
      exact ⟨rfl, rfl, rfl⟩
    · cases h
  | init _ subtune ih => exact ih.init subtune
  | play _ ih => exact ih.play
  | takeStores _ ih => exact ih.takeStores

end Player

end SidScore
