import SidScore.Processor.Bus
import SidScore.Word

/-!
# Memory with an access log

Sixty-four kilobytes of cells, and beside each cell whether it was read and whether it was written
since the log was last cleared.  The processor's accesses are logged; loading a program, poking a
byte and peeking at one are not, because they are not the program's doing.

The log answers questions about a routine after it ran, such as whether it installed an interrupt
vector.
-/

namespace SidScore

/-- The number of addresses. -/
abbrev addressCount : Nat := 65536

/-- What the log records of one address. -/
structure Access where
  /-- The address was read. -/
  read : Bool
  /-- The address was written. -/
  written : Bool
  deriving Repr, DecidableEq, Inhabited

namespace Access

/-- The record as two bits, one for reading and two for writing. -/
def toBits (access : Access) : UInt8 :=
  (if access.read then 1 else 0) ||| (if access.written then 2 else 0)

/-- The record that the two low bits give. -/
def ofBits (bits : UInt8) : Access :=
  ⟨bits &&& 1 != 0, bits &&& 2 != 0⟩

end Access

/-- Memory cells and the log of accesses to them. -/
structure Ram where
  /-- The bytes. -/
  cells : Vector UInt8 addressCount
  /-- The addresses that were read. -/
  readLog : Vector Bool addressCount
  /-- The addresses that were written. -/
  writeLog : Vector Bool addressCount

namespace Ram

/-- Zeroed memory with an empty log. -/
def empty : Ram where
  cells := .replicate addressCount 0
  readLog := .replicate addressCount false
  writeLog := .replicate addressCount false

instance : Inhabited Ram := ⟨empty⟩

/-! ## Cells -/

/-- The byte at an address. -/
def peek (ram : Ram) (address : UInt16) : UInt8 :=
  ram.cells.get ⟨address.toNat, address.toNat_lt⟩

/-- Puts a byte at an address without logging it. -/
def poke (ram : Ram) (address : UInt16) (value : UInt8) : Ram :=
  { ram with cells := ram.cells.set address.toNat value address.toNat_lt }

/-- Puts bytes at successive addresses, wrapping behind `$FFFF`, without logging them. -/
def load (ram : Ram) (address : UInt16) : List UInt8 → Ram
  | [] => ram
  | byte :: bytes => (ram.poke address byte).load (address + 1) bytes

/-- The word at an address, low byte first, wrapping behind `$FFFF`. -/
def peekWord (ram : Ram) (address : UInt16) : UInt16 :=
  wordOf (ram.peek address) (ram.peek (address + 1))

/-! ## The log -/

/-- The address was read. -/
def wasRead (ram : Ram) (address : UInt16) : Bool :=
  ram.readLog.get ⟨address.toNat, address.toNat_lt⟩

/-- The address was written. -/
def wasWritten (ram : Ram) (address : UInt16) : Bool :=
  ram.writeLog.get ⟨address.toNat, address.toNat_lt⟩

/-- What the log records of an address. -/
def access (ram : Ram) (address : UInt16) : Access :=
  ⟨ram.wasRead address, ram.wasWritten address⟩

/-- Logs a read. -/
def markRead (ram : Ram) (address : UInt16) : Ram :=
  { ram with readLog := ram.readLog.set address.toNat true address.toNat_lt }

/-- Logs a write. -/
def markWritten (ram : Ram) (address : UInt16) : Ram :=
  { ram with writeLog := ram.writeLog.set address.toNat true address.toNat_lt }

/-- Adds a record to the log without touching the byte. -/
def mark (ram : Ram) (address : UInt16) (access : Access) : Ram :=
  let ram := if access.read then ram.markRead address else ram
  if access.written then ram.markWritten address else ram

/-- Forgets every access. -/
def clearLog (ram : Ram) : Ram :=
  { ram with
    readLog := .replicate addressCount false
    writeLog := .replicate addressCount false }

instance : Bus Ram where
  read ram address := (ram.peek address, ram.markRead address)
  write ram address value := (ram.markWritten address).poke address value
  peek ram address := (ram.peek address, ram)

end Ram

end SidScore
