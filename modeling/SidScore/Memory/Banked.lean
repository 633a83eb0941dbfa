import SidScore.Memory.Banking
import SidScore.Memory.Ram

/-!
# Banked memory

Behind one address several stores can lie: plain memory under everything, up to three ROMs, the
registers inside the processor and the registers of the chips.  The control byte chooses which of
them a read reaches, and whether a write to `$D000`–`$DFFF` reaches a register or the memory under
it.  Both choices are made in one place each, `source` and `target`; reading and writing then only
follow them.

## The register file

No chip behind `$D000`–`$DFFF` works here.  The area is a file of registers, so that what a music
routine stored in a chip can be read back.  What is modelled is the chips' incomplete decoding: the
video chip repeats every 64 bytes, the sound chip every 32 as long as no second one is decoded
within its range, the timers every 16.  `canonical` names the one register that an address
decodes to.  Unconnected registers ignore writes and read as `$FF`.

## Two records of writes

The access log of the plain memory holds every address as the processor put it on the bus,
wherever the access ended up.  Beside it an observer can list the stores within a window of
addresses, in order.
-/

namespace SidScore

/-- One store as the processor issued it. -/
structure Store where
  /-- The address on the bus. -/
  address : UInt16
  /-- The byte. -/
  value : UInt8
  deriving Repr, DecidableEq, Inhabited

/-- An inclusive range of addresses. -/
structure Window where
  /-- The lowest address. -/
  first : UInt16
  /-- The highest address. -/
  last : UInt16
  deriving Repr, DecidableEq, Inhabited

/-- The address lies in the window. -/
def Window.contains (window : Window) (address : UInt16) : Bool :=
  window.first ≤ address && address ≤ window.last

/-- The ROM of BASIC or of the KERNAL. -/
abbrev SystemRom := Vector UInt8 8192

/-- The character ROM. -/
abbrev CharRom := Vector UInt8 4096

/-- Memory, ROMs, processor and chip registers, and the observer. -/
structure BankedMemory where
  /-- Plain memory with the access log. -/
  ram : Ram
  /-- The register file at `$D000`–`$DFFF`. -/
  registers : Vector UInt8 4096
  /-- BASIC, if an image was supplied. -/
  basicRom : Option SystemRom
  /-- The KERNAL, if an image was supplied. -/
  kernalRom : Option SystemRom
  /-- The character ROM, if an image was supplied. -/
  charRom : Option CharRom
  /-- The registers inside the processor, which select the configuration. -/
  banking : Banking
  /-- The base addresses of the sound chips, first chip first. -/
  sidBases : List UInt16
  /-- The addresses under observation. -/
  window : Option Window
  /-- The stores observed and not yet taken. -/
  observed : Array Store

namespace BankedMemory

/-- Memory after power-on: zeroed but for the two cells under the processor's registers, no ROMs,
one sound chip. -/
def powerOn : BankedMemory where
  ram := (Ram.empty.poke 0 Banking.powerOn.direction).poke 1 Banking.powerOn.control
  registers := .replicate 4096 0
  basicRom := none
  kernalRom := none
  charRom := none
  banking := .powerOn
  sidBases := [0xD400]
  window := none
  observed := #[]

instance : Inhabited BankedMemory := ⟨powerOn⟩

/-! ## Decoding -/

/-- The first sound chip repeats over `$D400`–`$D7FF`, because no further one is decoded there. -/
def firstChipRepeats (memory : BankedMemory) : Bool :=
  memory.sidBases.tail.all fun base => !(0xD400 ≤ base && base ≤ 0xD7FF)

/-- The register that an address of `$D000`–`$DFFF` decodes to. -/
def canonical (memory : BankedMemory) (address : UInt16) : UInt16 :=
  if 0xD000 ≤ address && address ≤ 0xD3FF then 0xD000 + address % 0x40
  else if 0xD400 ≤ address && address ≤ 0xD7FF && memory.firstChipRepeats then
    0xD400 + address % 0x20
  else if 0xDC00 ≤ address && address ≤ 0xDCFF then 0xDC00 + address % 0x10
  else if 0xDD00 ≤ address && address ≤ 0xDDFF then 0xDD00 + address % 0x10
  else address

/-- The register is not connected to anything. -/
def hardwired (register : UInt16) : Bool :=
  (0xD02F ≤ register && register ≤ 0xD03F) || (0xD41D ≤ register && register ≤ 0xD41F)

/-- Where an access ends up. -/
inductive Cell where
  /-- The direction register inside the processor. -/
  | direction
  /-- The control register inside the processor. -/
  | control
  /-- Plain memory. -/
  | ram (address : UInt16)
  /-- A register of a chip. -/
  | register (address : UInt16)
  /-- An unconnected register. -/
  | unconnected
  /-- A byte of a ROM. -/
  | rom (value : UInt8)
  deriving Repr, DecidableEq, Inhabited

/-- The register, connected or not, that an address decodes to. -/
def registerCell (memory : BankedMemory) (address : UInt16) : Cell :=
  let register := memory.canonical address
  if hardwired register then .unconnected else .register register

/-- A byte of a ROM if it is there and shows, and else the memory under it. -/
def romCell {n : Nat} (rom : Option (Vector UInt8 (n + 1))) (shows : Bool) (address : UInt16) :
    Cell :=
  match rom, shows with
  | some image, true => .rom (image.get ⟨address.toNat % (n + 1), Nat.mod_lt _ n.succ_pos⟩)
  | _, _ => .ram address

/-- Where a read ends up. -/
def source (memory : BankedMemory) (address : UInt16) : Cell :=
  let bank := memory.banking.state
  if address = 0 then .direction
  else if address = 1 then .control
  else if address < 0xA000 then .ram address
  else if address < 0xC000 then romCell memory.basicRom bank.basic address
  else if address < 0xD000 then .ram address
  else if address < 0xE000 then
    if bank.io then memory.registerCell address
    else romCell memory.charRom bank.charRom address
  else romCell memory.kernalRom bank.kernal address

/-- Where a write ends up. -/
def target (memory : BankedMemory) (address : UInt16) : Cell :=
  if address = 0 then .direction
  else if address = 1 then .control
  else if 0xD000 ≤ address && address < 0xE000 && memory.banking.state.io then
    memory.registerCell address
  else .ram address

/-- The content of a cell. -/
def content (memory : BankedMemory) : Cell → UInt8
  | .direction => memory.banking.direction
  | .control => memory.banking.control
  | .ram address => memory.ram.peek address
  | .register address =>
    memory.registers.get ⟨address.toNat % 4096, Nat.mod_lt _ (Nat.zero_lt_succ 4095)⟩
  | .unconnected => 0xFF
  | .rom value => value

/-- Puts a byte into a cell.  The processor's registers are kept in the memory under them as
well. -/
def put (memory : BankedMemory) (cell : Cell) (value : UInt8) : BankedMemory :=
  match cell with
  | .direction =>
    { memory with banking.direction := value, ram := memory.ram.poke 0 value }
  | .control =>
    { memory with banking.control := value, ram := memory.ram.poke 1 value }
  | .ram address => { memory with ram := memory.ram.poke address value }
  | .register address =>
    { memory with
      registers :=
        memory.registers.set (address.toNat % 4096) value (Nat.mod_lt _ (Nat.zero_lt_succ 4095)) }
  | .unconnected | .rom _ => memory

/-! ## Accesses -/

/-- The byte that a read finds. -/
def fetch (memory : BankedMemory) (address : UInt16) : UInt8 :=
  memory.content (memory.source address)

/-- Lists a store if its address is under observation. -/
def observeStore (memory : BankedMemory) (address : UInt16) (value : UInt8) : BankedMemory :=
  match memory.window with
  | some window =>
    if window.contains address then
      { memory with observed := memory.observed.push ⟨address, value⟩ }
    else memory
  | none => memory

/-- Logs a read. -/
def markRead (memory : BankedMemory) (address : UInt16) : BankedMemory :=
  { memory with ram := memory.ram.markRead address }

/-- Logs a write. -/
def markWritten (memory : BankedMemory) (address : UInt16) : BankedMemory :=
  { memory with ram := memory.ram.markWritten address }

/-- A write by the processor. -/
def store (memory : BankedMemory) (address : UInt16) (value : UInt8) : BankedMemory :=
  let memory := (memory.observeStore address value).markWritten address
  memory.put (memory.target address) value

instance : Bus BankedMemory where
  read memory address :=
    let value := memory.fetch address
    (value, memory.markRead address)
  write := store
  peek memory address := (memory.fetch address, memory)

/-! ## Configuration -/

/-- Sets the control byte without an access. -/
def setControl (memory : BankedMemory) (value : UInt8) : BankedMemory :=
  memory.put .control value

/-- Lets the chips' registers show. -/
def showIo (memory : BankedMemory) : BankedMemory :=
  if memory.banking.state.io then memory
  else memory.setControl memory.banking.controlShowingIo

/-- Chooses the base addresses of the sound chips. -/
def setSidBases (memory : BankedMemory) (bases : List UInt16) : BankedMemory :=
  { memory with sidBases := bases }

/-- Puts bytes into plain memory without an access. -/
def loadRam (memory : BankedMemory) (address : UInt16) (bytes : List UInt8) : BankedMemory :=
  { memory with ram := memory.ram.load address bytes }

/-! ## Looking on -/

/-- The register that an address decodes to, whether or not the registers show. -/
def ioRegister (memory : BankedMemory) (address : UInt16) : UInt8 :=
  memory.content (memory.registerCell address)

/-- The address was written since the log was last cleared. -/
def wasWritten (memory : BankedMemory) (address : UInt16) : Bool :=
  memory.ram.wasWritten address

/-- The word in plain memory, whatever shows above it. -/
def ramWord (memory : BankedMemory) (address : UInt16) : UInt16 :=
  memory.ram.peekWord address

/-- Forgets every logged access. -/
def clearLog (memory : BankedMemory) : BankedMemory :=
  { memory with ram := memory.ram.clearLog }

/-- Starts listing the stores within a window, from none. -/
def observe (memory : BankedMemory) (window : Window) : BankedMemory :=
  { memory with window := some window, observed := #[] }

/-- The stores listed since the last time, and the memory with an empty list. -/
def takeObserved (memory : BankedMemory) : Array Store × BankedMemory :=
  let observed := memory.observed
  (observed, { memory with observed := #[] })

end BankedMemory

end SidScore
