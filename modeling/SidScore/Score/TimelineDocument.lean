import SidScore.Document
import SidScore.Score.Timeline

/-!
# Timelines as documents

The form in which timelines are stored.  A row without a value for a field has nothing there; when
a row is read, the field may be missing as well.  Every record may also be read from the list of
its values, and then none of them may be missing.  The durations that were written last are not
stored, so the next row of each voice names the duration anew.
-/

namespace SidScore

open Document (natBelow? nullable? list? word?)

namespace Gate

/-- A change of a gate, or no change. -/
def toDocument (gate : Gate) : Document :=
  .text gate.name

/-- The change of a gate that a name stands for. -/
def ofName? (name : String) : Option Gate :=
  if name = off.name then some off
  else if name = on.name then some on
  else none

/-- Reads a change of a gate by its name. -/
def ofDocument? (document : Document) : Option Gate :=
  document.word? >>= ofName?

end Gate

namespace DeltaRow

/-- The names of a row's fields. -/
def fieldNames : List String :=
  ["time", "note", "gate", "freq", "new_instrument", "new_tempo"]

/-- The form of a row. -/
def toDocument (row : DeltaRow) : Document :=
  .record [
    ("time", .ofNat row.time.toNat),
    ("note", .ofOption (fun note => .ofNat note.toNat) row.note),
    ("gate", .ofOption Gate.toDocument row.gate),
    ("freq", .ofOption (fun frequency => .ofNat frequency.toNat) row.frequency),
    ("new_instrument", .ofOption .ofNat row.instrument),
    ("new_tempo", .ofOption (fun duration => .ofNat duration.toNat) row.tempo)]

/-- Reads a row. -/
def ofDocument? (document : Document) : Option DeltaRow := do
  let document ← document.record? fieldNames.length fieldNames
  let time ← document.required? "time" (natBelow? UInt64.size)
  let note ← document.defaulted? "note" none (nullable? (natBelow? UInt8.size))
  let gate ← document.defaulted? "gate" none (nullable? Gate.ofDocument?)
  let frequency ← document.defaulted? "freq" none (nullable? (natBelow? UInt16.size))
  let instrument ← document.defaulted? "new_instrument" none (nullable? (natBelow? UInt64.size))
  let tempo ← document.defaulted? "new_tempo" none (nullable? (natBelow? UInt32.size))
  pure ⟨UInt64.ofNat time, note.map UInt8.ofNat, gate, frequency.map UInt16.ofNat, instrument,
    tempo.map UInt32.ofNat⟩

end DeltaRow

namespace Instrument

/-- The names of an instrument's fields. -/
def fieldNames : List String :=
  ["waveform", "attack_decay", "sustain_release"]

/-- The form of an instrument. -/
def toDocument (instrument : Instrument) : Document :=
  .record [
    ("waveform", .ofNat instrument.waveform.toNat),
    ("attack_decay", .ofNat instrument.attackDecay.toNat),
    ("sustain_release", .ofNat instrument.sustainRelease.toNat)]

/-- Reads an instrument. -/
def ofDocument? (document : Document) : Option Instrument := do
  let document ← document.record? fieldNames.length fieldNames
  let waveform ← document.required? "waveform" (natBelow? UInt8.size)
  let attackDecay ← document.required? "attack_decay" (natBelow? UInt8.size)
  let sustainRelease ← document.required? "sustain_release" (natBelow? UInt8.size)
  pure ⟨UInt8.ofNat waveform, UInt8.ofNat attackDecay, UInt8.ofNat sustainRelease⟩

end Instrument

namespace InstrumentTable

/-- The form of a table. -/
def toDocument (table : InstrumentTable) : Document :=
  .record [("entries", .list (table.entries.toList.map Instrument.toDocument))]

/-- Reads a table. -/
def ofDocument? (document : Document) : Option InstrumentTable := do
  let document ← document.record? 1 ["entries"]
  let entries ← document.required? "entries" list?
  let entries ← entries.mapM Instrument.ofDocument?
  pure ⟨entries.toArray⟩

end InstrumentTable

namespace VoiceLine

/-- The form of a voice: its rows. -/
def toDocument (line : VoiceLine) : Document :=
  .list (line.rows.toList.map DeltaRow.toDocument)

/-- Reads a voice. -/
def ofDocument? (document : Document) : Option VoiceLine := do
  let rows ← document.list?
  let rows ← rows.mapM DeltaRow.ofDocument?
  pure ⟨rows.toArray, none⟩

end VoiceLine

namespace Timeline

/-- The form of a timeline. -/
def toDocument (timeline : Timeline) : Document :=
  .record [
    ("voices", .list (timeline.voices.toList.map VoiceLine.toDocument)),
    ("instruments", timeline.instruments.toDocument)]

/-- Reads a timeline. -/
def ofDocument? (document : Document) : Option Timeline := do
  let document ← document.record? 2 ["voices", "instruments"]
  let voices ← document.required? "voices" list?
  let voices ← voices.mapM VoiceLine.ofDocument?
  let instruments ← document.required? "instruments" InstrumentTable.ofDocument?
  pure ⟨voices.toArray, instruments⟩

end Timeline

end SidScore
