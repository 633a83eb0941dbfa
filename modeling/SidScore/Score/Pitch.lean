import SidScore.Timing.Region

/-!
# Pitches as notes

Notes are numbered in semitones with 69 for the tuning reference, and a pitch lies some cents
beside the nearest of them.  A voice with vibrato can wobble across the border between two
semitones; `snapVibrato` keeps such a wobble on the note before it.
-/

namespace SidScore

/-- The number of the note that the tuning reference sounds at. -/
def referenceNote : Float := 69.0

/-- A pitch as a note and the cents beside it. -/
structure Pitch where
  /-- The nearest note. -/
  note : UInt8
  /-- How far the pitch lies above the note. -/
  cents : Float
  deriving Repr, Inhabited

namespace Pitch

/-- The pitch of a frequency register.  A register of 0 has none, nor has a pitch outside the notes
0–127. -/
def ofFrequency? (frequency : UInt16) (region : Region) (tuning : Float) : Option Pitch :=
  if frequency = 0 then none
  else
    let position := referenceNote + 12.0 * (region.oscillatorHz frequency / tuning).log2
    let nearest := position.round
    if 0.0 ≤ nearest && nearest ≤ 127.0 then
      some ⟨nearest.toUInt8, (position - nearest) * 100.0⟩
    else none

/-- The distance in cents from the border with a neighbouring previous note. -/
def borderDistance? (pitch : Pitch) (previous : UInt8) : Option Float :=
  if pitch.note = previous + 1 then some (pitch.cents + 50.0)
  else if previous = pitch.note + 1 then some (50.0 - pitch.cents)
  else none

/-- The note of a pitch, or the previous note where the pitch is a semitone away from it and within
`margin` cents of the border between the two. -/
def snapVibrato (pitch : Pitch) (previous : Option UInt8) (margin : Float) : UInt8 :=
  match previous with
  | none => pitch.note
  | some previous =>
    match pitch.borderDistance? previous with
    | some distance => if distance < margin then previous else pitch.note
    | none => pitch.note

end Pitch

/-! ## The tuning of a tune -/

/-- The concert pitch that is assumed when none is known. -/
def standardTuning : Float := 440.0

/-- How far a frequency register lies beside equal temperament, between -50 and 50 cents. -/
def centsOffset (region : Region) (frequency : UInt16) : Float :=
  let cents := 1200.0 * (region.oscillatorHz frequency / standardTuning).log2
  cents - 100.0 * (cents / 100.0).round

/-- The concert pitch that the frequencies were made for: the standard one, shifted by their mean
offset.  Without a frequency there is no estimate. -/
def estimateTuning? (region : Region) (frequencies : List UInt16) : Option Float :=
  let offsets := (frequencies.filter (· != 0)).map (centsOffset region)
  if offsets.isEmpty then none
  else
    let mean := offsets.foldl (· + ·) 0.0 / offsets.length.toFloat
    some (standardTuning * Float.pow 2.0 (mean / 1200.0))

end SidScore
