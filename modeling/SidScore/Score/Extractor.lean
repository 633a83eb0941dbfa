import SidScore.Score.Event
import SidScore.Score.Instrument
import SidScore.Score.Pitch

/-!
# Extracting notes

A voice sounds while its gate is open, its oscillator is not held, a waveform is selected and it is
not the disconnected third voice.  At every call each voice is compared with what it did at the
call before, and the differences are its event.

* A note starts when the voice begins to sound, when its note changes while it sounds, or when its
  gate was closed and opened again within the call.
* The gate is reported closed at the call at which the voice stops sounding.
* On request, a change of pitch during an audible release starts a note too, and leaves the gate
  closed.
-/

namespace SidScore

/-- What counts as a note. -/
structure ExtractOptions where
  /-- How many cents a wobble may reach beyond a semitone's border. -/
  vibratoMargin : Float
  /-- Changes of pitch during a release start notes. -/
  notesInRelease : Bool
  /-- The frequency of a sounding voice is reported at every call. -/
  frequencyEveryCall : Bool
  deriving Repr, Inhabited

/-- What a voice did at the call before. -/
structure VoiceTracker where
  /-- The gate was last reported open. -/
  active : Bool
  /-- The note that started last. -/
  note : Option UInt8
  /-- The frequency register. -/
  frequency : UInt16
  /-- The place of the instrument that was reported last. -/
  instrument : Option Nat
  deriving Repr, DecidableEq, Inhabited

/-- A voice that did nothing yet. -/
def VoiceTracker.initial : VoiceTracker :=
  ⟨false, none, 0, none⟩

/-! ## One voice -/

namespace Channel

/-- The voice could be heard if its envelope were up. -/
def audible (channel : Channel) (silenced : Bool) : Bool :=
  !channel.test && channel.waveform != 0 && !silenced

/-- The voice sounds. -/
def sounding (channel : Channel) (silenced : Bool) : Bool :=
  channel.gate = .on && channel.audible silenced

/-- The voice's release is heard. -/
def releasing (channel : Channel) (silenced : Bool) : Bool :=
  channel.gate = .off && channel.inRelease && channel.audible silenced

/-- The note of the voice, with wobbles around the previous note kept on it. -/
def steadyNote (channel : Channel) (previous : Option UInt8) (margin : Float) : Option UInt8 :=
  channel.note.map fun note => (Pitch.mk note channel.cents).snapVibrato previous margin

end Channel

/-- What a call means for one voice. -/
structure VoiceStep where
  /-- The changes. -/
  event : VoiceEvent
  /-- What the voice did. -/
  tracker : VoiceTracker
  /-- The instruments. -/
  table : InstrumentTable

namespace VoiceStep

/-- A note starts, with the gate open if the voice sounds and closed if it releases. -/
def start (tracker : VoiceTracker) (table : InstrumentTable) (channel : Channel)
    (note : Option UInt8) (sounding : Bool) : VoiceStep :=
  let (index, table) := table.indexOf (.ofChannel channel)
  { event :=
      { note
        gate :=
          if sounding then some .on
          else if tracker.active then some .off
          else none
        frequency := some channel.frequency
        instrument := if tracker.instrument = some index then none else some index }
    tracker := ⟨sounding, note, channel.frequency, some index⟩
    table }

/-- No note starts: the gate closes, or the frequency changes, or nothing does. -/
def carryOn (tracker : VoiceTracker) (table : InstrumentTable) (channel : Channel)
    (sounding everyCall : Bool) : VoiceStep :=
  let tracked := { tracker with frequency := channel.frequency }
  if tracker.active && !sounding then
    ⟨{ VoiceEvent.unchanged with gate := some .off }, { tracked with active := false }, table⟩
  else if tracker.active && (everyCall || channel.frequency != tracker.frequency) then
    ⟨{ VoiceEvent.unchanged with frequency := some channel.frequency }, tracked, table⟩
  else ⟨.unchanged, tracked, table⟩

/-- What a call means for one voice. -/
def of (options : ExtractOptions) (tracker : VoiceTracker) (table : InstrumentTable)
    (channel : Channel) (silenced : Bool) : VoiceStep :=
  let sounding := channel.sounding silenced
  let releasing := options.notesInRelease && channel.releasing silenced
  let note := channel.steadyNote tracker.note options.vibratoMargin
  let retrigger :=
    if sounding then !tracker.active || note != tracker.note || channel.gateDoubleToggle
    else releasing && note != tracker.note
  if note.isSome && retrigger then start tracker table channel note sounding
  else carryOn tracker table channel sounding options.frequencyEveryCall

/-- A note starts. -/
def starts (step : VoiceStep) : Bool :=
  step.event.note.isSome

end VoiceStep

/-! ## All voices -/

/-- What is remembered of all voices. -/
structure Extractor where
  /-- What counts as a note. -/
  options : ExtractOptions
  /-- The voices, in order. -/
  voices : Array VoiceTracker
  /-- The frequency registers of all notes that started, in order. -/
  startFrequencies : Array UInt16
  deriving Repr, Inhabited

/-- An extractor for a number of voices. -/
def Extractor.new (voices : Nat) (options : ExtractOptions) : Extractor :=
  ⟨options, .replicate voices .initial, #[]⟩

/-- A pass over the voices of a row. -/
structure Pass where
  /-- What is remembered. -/
  extractor : Extractor
  /-- The instruments. -/
  table : InstrumentTable
  /-- The events of the voices passed. -/
  events : Array VoiceEvent

namespace Pass

/-- Passes one voice, and marks it if a note starts.  A voice beyond those that are remembered has
no event. -/
def channel (pass : Pass) (silenced : Bool) (channel : Channel) : Pass × Channel :=
  let ⟨⟨options, voices, startFrequencies⟩, table, events⟩ := pass
  let voice := events.size
  if h : voice < voices.size then
    let step := VoiceStep.of options (voices[voice]) table channel silenced
    let voices := voices.set voice step.tracker h
    if step.starts then
      (⟨⟨options, voices, startFrequencies.push channel.frequency⟩, step.table,
        events.push step.event⟩, { channel with newNote := true })
    else
      (⟨⟨options, voices, startFrequencies⟩, step.table, events.push step.event⟩, channel)
  else
    (⟨⟨options, voices, startFrequencies⟩, table, events.push .unchanged⟩, channel)

/-- The third voice is silent when it is disconnected and does not go through the filter. -/
def silenced (chip : ChipState) (voice : Fin Chip.voiceCount) : Bool :=
  voice = 2 && chip.voice3Off && !(chip.channels.get voice).filtered

/-- Passes the voices of one chip. -/
def chip (pass : Pass) (chip : ChipState) : Pass × ChipState :=
  let step (pass : Pass) (voice : Fin Chip.voiceCount) : Pass × Channel :=
    pass.channel (silenced chip voice) (chip.channels.get voice)
  let (pass, first) := step pass 0
  let (pass, second) := step pass 1
  let (pass, third) := step pass 2
  (pass, { chip with channels := #v[first, second, third] })

/-- Passes the voices of several chips. -/
def chips (pass : Pass) : List ChipState → Pass × List ChipState
  | [] => (pass, [])
  | chip :: rest =>
    let (pass, chip) := pass.chip chip
    let (pass, rest) := pass.chips rest
    (pass, chip :: rest)

end Pass

/-- What extraction makes of a row. -/
structure Extraction where
  /-- What is remembered afterwards. -/
  extractor : Extractor
  /-- The instruments afterwards. -/
  table : InstrumentTable
  /-- The events of the voices, in order. -/
  events : Array VoiceEvent
  /-- The row, with the voices marked on which a note starts. -/
  row : Row

/-- Extracts the events of a row. -/
def Extractor.process (extractor : Extractor) (row : Row) (table : InstrumentTable) :
    Extraction :=
  let (pass, chips) := (Pass.mk extractor table #[]).chips row.chips
  ⟨pass.extractor, pass.table, pass.events, { row with chips }⟩

end SidScore
