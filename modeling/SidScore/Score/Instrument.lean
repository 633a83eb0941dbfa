import SidScore.Sample.Row

/-!
# Instruments

The settings with which a note starts: waveform and envelope.  A table lists the distinct ones in
the order of their first use, and notes refer to them by their place in it.
-/

namespace SidScore

/-- The settings of a starting note. -/
structure Instrument where
  /-- The waveform bits. -/
  waveform : UInt8
  /-- The register of attack and decay. -/
  attackDecay : UInt8
  /-- The register of sustain and release. -/
  sustainRelease : UInt8
  deriving Repr, DecidableEq, Inhabited

namespace Instrument

/-- The settings of a sampled voice. -/
def ofChannel (channel : Channel) : Instrument :=
  ⟨channel.waveform, channel.attackDecay, channel.sustainRelease⟩

/-- The waveform bits alone, should other bits be set beside them. -/
def waveformBits (instrument : Instrument) : UInt8 :=
  instrument.waveform &&& Chip.waveformMask

end Instrument

/-- The distinct instruments in the order of their first use. -/
structure InstrumentTable where
  /-- The instruments. -/
  entries : Array Instrument
  deriving Repr, DecidableEq, Inhabited

namespace InstrumentTable

/-- A table without instruments. -/
def empty : InstrumentTable := ⟨#[]⟩

/-- The number of instruments. -/
def size (table : InstrumentTable) : Nat :=
  table.entries.size

/-- There is no instrument. -/
def isEmpty (table : InstrumentTable) : Bool :=
  table.entries.isEmpty

/-- The instrument at a place. -/
def get? (table : InstrumentTable) (index : Nat) : Option Instrument :=
  table.entries[index]?

/-- The place of an instrument, and the table with the instrument in it. -/
def indexOf (table : InstrumentTable) (instrument : Instrument) : Nat × InstrumentTable :=
  match table.entries.findIdx? (· == instrument) with
  | some index => (index, table)
  | none => (table.entries.size, ⟨table.entries.push instrument⟩)

end InstrumentTable

end SidScore
