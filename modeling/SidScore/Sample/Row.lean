import SidScore.Chip.Layout

/-!
# What the chips hold after a call

A row shows every chip as its registers stand after one call of the play routine, decoded into
fields, together with a few facts that the registers alone do not show: whether a gate has been set
at all, when a release began, and whether a gate went back and forth within the call.
-/

namespace SidScore

/-- The gate of a voice. -/
inductive GateState where
  /-- The voice's control register was never written. -/
  | unset
  /-- The gate is closed. -/
  | off
  /-- The gate is open. -/
  | on
  deriving Repr, DecidableEq, Inhabited

/-- The name of a gate's state. -/
def GateState.name : GateState → String
  | unset => "unset"
  | off => "off"
  | on => "on"

/-- One voice after a call. -/
structure Channel where
  /-- The frequency register. -/
  frequency : UInt16
  /-- The nearest note, if the pitch is in range. -/
  note : Option UInt8
  /-- How far the pitch lies above the note. -/
  cents : Float
  /-- The pulse width, twelve bits. -/
  pulseWidth : UInt16
  /-- The attack nibble. -/
  attack : UInt8
  /-- The decay nibble. -/
  decay : UInt8
  /-- The sustain nibble. -/
  sustain : UInt8
  /-- The release nibble. -/
  release : UInt8
  /-- The waveform bits. -/
  waveform : UInt8
  /-- The gate. -/
  gate : GateState
  /-- The oscillator is synchronised to its neighbour. -/
  sync : Bool
  /-- The oscillator is modulated by its neighbour. -/
  ring : Bool
  /-- The oscillator is held. -/
  test : Bool
  /-- The voice goes through the filter. -/
  filtered : Bool
  /-- The call at which the gate was last seen to close. -/
  releaseStart : Option UInt64
  /-- The gate is closed and the release still sounds. -/
  inRelease : Bool
  /-- The gate changed at least twice within the call. -/
  gateDoubleToggle : Bool
  /-- A note starts at this call. -/
  newNote : Bool
  deriving Repr, Inhabited

namespace Channel

/-- A voice of which nothing is known. -/
def silent : Channel where
  frequency := 0
  note := none
  cents := 0.0
  pulseWidth := 0
  attack := 0
  decay := 0
  sustain := 0
  release := 0
  waveform := 0
  gate := .unset
  sync := false
  ring := false
  test := false
  filtered := false
  releaseStart := none
  inRelease := false
  gateDoubleToggle := false
  newNote := false

/-- The register of attack and decay. -/
def attackDecay (channel : Channel) : UInt8 :=
  (channel.attack <<< 4) ||| channel.decay

/-- The register of sustain and release. -/
def sustainRelease (channel : Channel) : UInt8 :=
  (channel.sustain <<< 4) ||| channel.release

end Channel

/-- One chip after a call. -/
structure ChipState where
  /-- The volume nibble. -/
  volume : UInt8
  /-- The filter's cutoff, eleven bits. -/
  cutoff : UInt16
  /-- The filter's resonance nibble. -/
  resonance : UInt8
  /-- The routing bits. -/
  routing : UInt8
  /-- The mode bits without the one that disconnects the third voice. -/
  mode : UInt8
  /-- The third voice is disconnected. -/
  voice3Off : Bool
  /-- The voices. -/
  channels : Vector Channel Chip.voiceCount
  deriving Repr, Inhabited

/-- All chips after a call. -/
structure Row where
  /-- The number of the call, from 0. -/
  call : UInt64
  /-- The start of the call in thousandths of a frame. -/
  time : UInt64
  /-- The chips. -/
  chips : List ChipState
  deriving Repr, Inhabited

namespace Row

/-- The voice of a number, three to a chip. -/
def channel? (row : Row) (voice : Nat) : Option Channel :=
  row.chips[voice / Chip.voiceCount]?.map fun chip =>
    chip.channels.get ⟨voice % Chip.voiceCount, Nat.mod_lt _ (Nat.zero_lt_succ _)⟩

/-- Changes one voice of a chip. -/
def modifyChannel (voice : Fin Chip.voiceCount) (f : Channel → Channel) (chip : ChipState) :
    ChipState :=
  { chip with channels := chip.channels.set voice (f (chip.channels.get voice)) voice.isLt }

/-- The row with one voice changed, if there is such a voice. -/
def modify? (row : Row) (voice : Nat) (f : Channel → Channel) : Option Row :=
  if voice / Chip.voiceCount < row.chips.length then
    some { row with
      chips := row.chips.modify (voice / Chip.voiceCount)
        (modifyChannel ⟨voice % Chip.voiceCount, Nat.mod_lt _ (Nat.zero_lt_succ _)⟩ f) }
  else none

end Row

end SidScore
