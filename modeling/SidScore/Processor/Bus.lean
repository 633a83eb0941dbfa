/-!
# The bus, and programs that use it

The processor sees memory through two wires: it reads a byte at an address, or writes one.  What a
read returns and what a write does is the memory's business, so an instruction is described here
without any memory at all, as a `BusProgram`: a tree that names an access, and goes on with what
the access returned.

Two things follow from keeping the tree apart from the memory that answers it.  The accesses of an
instruction and their order can be read off the tree, whatever the memory; and two memories that
answer alike are driven alike, because the program cannot look at anything but the answers.
-/

namespace SidScore

/-- A memory as the processor sees it.  Every access succeeds, and may change the memory: a memory
that keeps an access log changes on a read too. -/
class Bus (M : Type) where
  /-- The byte at an address, and the memory after the access. -/
  read : M → UInt16 → UInt8 × M
  /-- The memory after a byte was put on an address. -/
  write : M → UInt16 → UInt8 → M
  /-- The byte at an address, for an onlooker.  A memory that logs accesses does not log this one;
  a memory without that distinction answers it as a read. -/
  peek : M → UInt16 → UInt8 × M := read

/-- A computation that reads and writes a bus and ends in a value. -/
inductive BusProgram (α : Type) where
  /-- No access is left. -/
  | done (value : α)
  /-- Read a byte and go on with it. -/
  | read (address : UInt16) (next : UInt8 → BusProgram α)
  /-- Write a byte and go on. -/
  | write (address : UInt16) (value : UInt8) (next : BusProgram α)

namespace BusProgram

variable {α β M : Type}

/-- One program after another: the second starts from the value of the first. -/
def bind (first : BusProgram α) (second : α → BusProgram β) : BusProgram β :=
  match first with
  | done value => second value
  | read address next => read address fun byte => (next byte).bind second
  | write address value next => write address value (next.bind second)

instance : Monad BusProgram where
  pure := done
  bind := bind

/-- Reads one byte. -/
def readByte (address : UInt16) : BusProgram UInt8 :=
  read address done

/-- Writes one byte and hands on a value. -/
def writeByte (address : UInt16) (value : UInt8) (result : α) : BusProgram α :=
  write address value (done result)

/-- Runs a program on a memory. -/
def run [Bus M] (program : BusProgram α) (memory : M) : α × M :=
  match program with
  | done value => (value, memory)
  | read address next =>
    let (byte, memory) := Bus.read memory address
    (next byte).run memory
  | write address value next => next.run (Bus.write memory address value)

end BusProgram

end SidScore
