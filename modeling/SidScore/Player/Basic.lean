import SidScore.Memory.Banked
import SidScore.Notice
import SidScore.Player.Routine
import SidScore.Tune.File

/-!
# Playing a tune

A player holds a tune in a machine and calls its routines: init once for a subtune, then play at
every tick.

## What init reveals

Two facts about a tune are known only after its init routine ran.  A routine that reprograms the
interrupt timer is called more often than once a frame; the latch it stored tells how often.  And
where the header declares no play routine, init has installed one in an interrupt vector.  Both are
read off the memory and its access log, and kept as the player's `Timing`.

## Banking

A PSID tune is called with the configuration in which the routine's own address shows plain memory.
An RSID tune sets the configuration itself.  After a call the chips' registers are made to show, so
that they can be read back.
-/

namespace SidScore

/-- What an operation leaves: its result, the state afterwards and what there is to tell.  The
state counts after a fault as well. -/
structure Reply (σ α : Type) where
  /-- The result. -/
  result : Except TuneFault α
  /-- The state afterwards. -/
  state : σ
  /-- What happened, in order. -/
  notices : List Notice

/-- The limits of a player. -/
structure PlayerOptions where
  /-- The instructions that one call may take. -/
  instructionLimit : Nat
  /-- The stack zone in which a return ends a call. -/
  stackWrapZone : UInt8
  /-- The speed-up over the usual timer rate from which a tune counts as faster. -/
  multispeedThreshold : Float
  deriving Repr, Inhabited

/-- The usual limits. -/
def PlayerOptions.default : PlayerOptions :=
  ⟨1000000, ExitPolicy.defaultWrapZone, 1.3⟩

/-- What a player plays and how; nothing of it changes. -/
structure Setup where
  /-- The tune. -/
  file : TuneFile
  /-- The timing. -/
  region : Region
  /-- The limits. -/
  options : PlayerOptions

/-- What init reveals about a tune. -/
structure Timing where
  /-- The address of the play routine. -/
  playAddress : Option UInt16
  /-- Calls of the play routine in a frame. -/
  multispeed : Float
  /-- The latch that init stored in the interrupt timer. -/
  latch : Option UInt16
  deriving Repr, Inhabited

/-- What is assumed before init ran. -/
def Timing.initial : Timing :=
  ⟨none, 1.0, none⟩

/-- A tune in a machine. -/
structure Player where
  /-- The tune and how to play it. -/
  setup : Setup
  /-- The machine. -/
  machine : Machine BankedMemory
  /-- What init revealed. -/
  timing : Timing

/-! ## Reading the timing off the memory -/

/-- The low byte of the interrupt timer's latch. -/
def timerLow : UInt16 := 0xDC04

/-- The high byte of the interrupt timer's latch. -/
def timerHigh : UInt16 := 0xDC05

/-- The vector through which the system passes interrupts on. -/
def softwareVector : UInt16 := 0x0314

/-- The vector that the processor takes on an interrupt. -/
def hardwareVector : UInt16 := 0xFFFE

namespace BankedMemory

/-- The latch of the interrupt timer, if either of its bytes was written. -/
def storedLatch? (memory : BankedMemory) : Option UInt16 :=
  if memory.wasWritten timerLow || memory.wasWritten timerHigh then
    some (wordOf (memory.ioRegister timerLow) (memory.ioRegister timerHigh))
  else none

/-- A vector was written, at least one byte of it. -/
def vectorWritten (memory : BankedMemory) (vector : UInt16) : Bool :=
  memory.wasWritten vector || memory.wasWritten (vector + 1)

/-- The interrupt handler installed in a vector; the system's own vector comes first. -/
def installedHandler? (memory : BankedMemory) : Option UInt16 :=
  if memory.vectorWritten softwareVector then some (memory.ramWord softwareVector)
  else if memory.vectorWritten hardwareVector then some (memory.ramWord hardwareVector)
  else none

end BankedMemory

namespace Region

/-- How much faster than usual a timer latch makes the calls. -/
def speedUp (region : Region) (latch : UInt16) : Float :=
  region.defaultLatch.toNat.toFloat / latch.toNat.toFloat

end Region

namespace Setup

/-- The speed-up that a latch stands for, and whether it reaches the threshold.  A latch of 0 has
none. -/
def speedUp? (setup : Setup) (latch : UInt16) : Option (Float × Bool) :=
  if latch = 0 then none
  else
    let factor := setup.region.speedUp latch
    some (factor, setup.options.multispeedThreshold < factor)

/-- What the latch in memory says about the timing. -/
def adoptLatch (setup : Setup) (memory : BankedMemory) (timing : Timing) : Timing :=
  match memory.storedLatch? with
  | none => timing
  | some latch =>
    let timing := { timing with latch := some latch }
    match setup.speedUp? latch with
    | some (factor, true) => { timing with multispeed := factor }
    | some (_, false) | none => timing

/-- What is told of the latch in memory. -/
def latchNotices (setup : Setup) (memory : BankedMemory) : List Notice :=
  match memory.storedLatch? with
  | none => []
  | some latch =>
    match setup.speedUp? latch with
    | some (factor, multispeed) => [.timerLatch latch factor multispeed]
    | none => []

/-- The address of the play routine: the header's, or else the handler that init installed. -/
def playAddress? (setup : Setup) (memory : BankedMemory) : Option UInt16 :=
  setup.file.playAddress? <|> memory.installedHandler?

/-- What is told of the play routine. -/
def playNotices (setup : Setup) (memory : BankedMemory) : List Notice :=
  match setup.file.playAddress?, memory.installedHandler? with
  | none, some address => [.playInstalled address]
  | _, _ => []

/-! ## Banking -/

/-- The control byte with which an address shows plain memory and as much else as possible. -/
def controlFor (address : UInt16) : UInt8 :=
  if address < 0xA000 then 0x37
  else if address < 0xD000 then 0x36
  else if address < 0xE000 then 0x34
  else 0x35

/-- The control byte with which the init routine is called. -/
def initControl (setup : Setup) : UInt8 :=
  match setup.file.header.format with
  | .psid => controlFor setup.file.initAddress
  | .rsid => 0x37

/-- Sets the configuration for a call of the play routine. -/
def bankForPlay (setup : Setup) (address : UInt16) (memory : BankedMemory) : BankedMemory :=
  match setup.file.header.format with
  | .psid => memory.setControl (controlFor address)
  | .rsid => memory

/-! ## Loading -/

/-- The addresses through which a store can reach a chip. -/
def chipWindow (bases : List UInt16) (repeats : Bool) : Window :=
  let first := bases.foldl min (bases.headD Chip.firstBase)
  let last := bases.foldl max (bases.headD Chip.firstBase) + (Chip.blockSize - 1)
  if repeats then ⟨min first Chip.firstBase, max last Chip.repeatEnd⟩ else ⟨first, last⟩

/-- The program lies within memory. -/
def fits (setup : Setup) : Bool :=
  setup.file.loadAddress.toNat + setup.file.program.length ≤ 0x10000

/-- The memory with the program in it and the chips under observation. -/
def loadedMemory (setup : Setup) : BankedMemory :=
  let bases := setup.file.header.chipBases
  let memory := (BankedMemory.powerOn.loadRam setup.file.loadAddress setup.file.program).setSidBases
    bases
  let window := chipWindow bases memory.firstChipRepeats
  memory.observe window

end Setup

namespace Player

/-- Puts a tune into a machine. -/
def load (setup : Setup) : Except TuneFault Player :=
  if setup.fits then
    let machine := (Machine.powerOn setup.loadedMemory).mapCpu fun cpu =>
      { cpu with exitPolicy := .whenStackEmpty setup.options.stackWrapZone }
    .ok ⟨setup, machine, .initial⟩
  else .error (.programTooLarge setup.file.program.length setup.file.loadAddress)

/-- What is told of a tune that was put into a machine. -/
def loadNotices (setup : Setup) : List Notice :=
  if setup.fits then
    [.loaded setup.file.program.length setup.file.loadAddress setup.file.header.chipBases
      setup.region]
  else []

/-- What is told of a routine's end. -/
def endingNotices (cpu : Processor) : Ending → List Notice
  | .returned kind => [.emptyStack kind cpu.fetchedAt]
  | .idle => [.initIdles cpu.pc]
  | .systemExit => []

/-! ## Calling -/

/-- Enters the init routine for a subtune, counted from 1, with an empty log. -/
def enterInit (setup : Setup) (subtune : UInt16) (machine : Machine BankedMemory) :
    Machine BankedMemory :=
  (machine.mapBus fun memory => (memory.setControl setup.initControl).clearLog).mapCpu fun cpu =>
    cpu.reset setup.file.initAddress (lowByte (subtune - 1)) 0 0 0

/-- Takes over what an init routine that ended has revealed. -/
def settle (setup : Setup) (machine : Machine BankedMemory) (timing : Timing)
    (notices : List Notice) : Reply Player Unit :=
  let ⟨cpu, memory⟩ := machine
  let timing := setup.adoptLatch memory timing
  let notices := notices ++ setup.latchNotices memory
  match setup.playAddress? memory with
  | some address =>
    { result := .ok ()
      notices := notices ++ setup.playNotices memory
      state := ⟨setup, ⟨cpu, memory.takeObserved.2⟩, { timing with playAddress := some address }⟩ }
  | none =>
    { result := .error (.noPlayAddress setup.file.initAddress)
      notices
      state := ⟨setup, ⟨cpu, memory⟩, timing⟩ }

/-- Calls the init routine for a subtune, counted from 1. -/
def init (player : Player) (subtune : UInt16) : Reply Player Unit :=
  match player.setup.file.checkSubtune subtune with
  | .error fault => ⟨.error fault, player, []⟩
  | .ok _ =>
    let ⟨setup, machine, timing⟩ := player
    let started := .initStarted setup.file.initAddress subtune setup.initControl
    match (enterInit setup subtune machine).runRoutine .init setup.options.instructionLimit with
    | (.error fault, machine) => ⟨.error fault, ⟨setup, machine, timing⟩, [started]⟩
    | (.ok run, machine) =>
      settle setup machine timing (started :: endingNotices machine.cpu run.ending)

/-- Enters the play routine. -/
def enterPlay (setup : Setup) (address : UInt16) (machine : Machine BankedMemory) :
    Machine BankedMemory :=
  (machine.mapBus (setup.bankForPlay address)).mapCpu (·.prepareCall address)

/-- Calls the play routine, and gives the number of instructions it took. -/
def play (player : Player) : Reply Player Nat :=
  match player.timing.playAddress with
  | none => ⟨.error (.noPlayAddress player.setup.file.initAddress), player, []⟩
  | some address =>
    let ⟨setup, machine, timing⟩ := player
    match (enterPlay setup address machine).runRoutine .play setup.options.instructionLimit with
    | (.error fault, machine) => ⟨.error fault, ⟨setup, machine, timing⟩, []⟩
    | (.ok run, machine) =>
      { result := .ok run.instructions
        notices := endingNotices machine.cpu run.ending
          ++ [.played address run.instructions machine.cpu.cycles]
        state := ⟨setup, machine.mapBus BankedMemory.showIo, timing⟩ }

/-- The stores to the chips since the last time they were taken. -/
def takeStores (player : Player) : Array Store × Player :=
  let ⟨setup, ⟨cpu, memory⟩, timing⟩ := player
  let (stores, memory) := memory.takeObserved
  (stores, ⟨setup, ⟨cpu, memory⟩, timing⟩)

end Player

end SidScore
