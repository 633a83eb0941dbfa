import SidScore.Score.Event
import SidScore.Score.Instrument
import SidScore.Score.Tempo

/-!
# Timelines

A timeline lists for each voice what changed and when, and nothing for the calls at which nothing
did.  A row's field without a value has the value of the latest row that has one.  Durations are
carried in the same way, each voice for itself: a row names the duration of the rows from it on
when that is not the duration that the voice's rows named last.
-/

namespace SidScore

/-- The changes on one voice at one time. -/
structure DeltaRow where
  /-- Thousandths of a frame since the first call. -/
  time : UInt64
  /-- The note that starts. -/
  note : Option UInt8
  /-- The change of the gate. -/
  gate : Option Gate
  /-- The frequency register. -/
  frequency : Option UInt16
  /-- The place of the instrument. -/
  instrument : Option Nat
  /-- The duration of the rows from this one on. -/
  tempo : Option UInt32
  deriving Repr, DecidableEq, Inhabited

/-- The rows of one voice. -/
structure VoiceLine where
  /-- The rows, in order. -/
  rows : Array DeltaRow
  /-- The duration that was written last. -/
  tempo : Option UInt32
  deriving Repr, DecidableEq, Inhabited

namespace VoiceLine

/-- A voice without rows. -/
def empty : VoiceLine :=
  ⟨#[], none⟩

/-- Appends an event, if it or the duration brings a change. -/
def append (line : VoiceLine) (time : UInt64) (event : VoiceEvent) (duration : UInt32) :
    VoiceLine :=
  let tempo := if line.tempo = some duration then none else some duration
  if event.isEmpty && tempo.isNone then line
  else
    { rows := line.rows.push
        ⟨time, event.note, event.gate, event.frequency, event.instrument, tempo⟩
      tempo := some duration }

end VoiceLine

/-- All voices of a tune, and the instruments of their notes. -/
structure Timeline where
  /-- The voices, in order. -/
  voices : Array VoiceLine
  /-- The instruments. -/
  instruments : InstrumentTable
  deriving Repr, DecidableEq, Inhabited

namespace Timeline

/-- A timeline without rows for a number of chips. -/
def new (chips : Nat) : Timeline :=
  ⟨.replicate (chips * Chip.voiceCount) .empty, .empty⟩

/-- Appends the event of one voice.  A voice that the timeline does not have is passed over. -/
def append (timeline : Timeline) (voice : Nat) (time : UInt64) (event : VoiceEvent)
    (tempo : Tempo) : Timeline :=
  { timeline with
    voices := timeline.voices.modify voice fun line => line.append time event tempo.rowDuration }

/-- Appends the events of the voices from a number on. -/
def appendFrom (timeline : Timeline) (voice : Nat) (time : UInt64) (tempo : Tempo) :
    List VoiceEvent → Timeline
  | [] => timeline
  | event :: events =>
    (timeline.append voice time event tempo).appendFrom (voice + 1) time tempo events

/-- The rows of a voice; none for a voice that the timeline does not have. -/
def rows (timeline : Timeline) (voice : Nat) : Array DeltaRow :=
  (timeline.voices[voice]?.map VoiceLine.rows).getD #[]

end Timeline

end SidScore
