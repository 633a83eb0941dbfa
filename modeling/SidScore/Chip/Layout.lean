/-!
# The sound chip's registers

The chip has three voices of seven registers each and four registers of its own.  Only this layout
is needed here: the registers are read back, and no sound is made.
-/

namespace SidScore.Chip

/-- The base address of the first chip. -/
def firstBase : UInt16 := 0xD400

/-- The addresses that one chip decodes. -/
def blockSize : UInt16 := 0x20

/-- The last address over which a lone first chip repeats. -/
def repeatEnd : UInt16 := 0xD7FF

/-- The voices of a chip. -/
abbrev voiceCount : Nat := 3

/-- The distance between the registers of two neighbouring voices. -/
def voiceStride : UInt16 := 7

/-! ## A voice's registers, from the voice's first -/

/-- Low byte of the frequency. -/
def frequencyLow : UInt16 := 0

/-- High byte of the frequency. -/
def frequencyHigh : UInt16 := 1

/-- Low byte of the pulse width. -/
def pulseLow : UInt16 := 2

/-- High nibble of the pulse width, in the low four bits. -/
def pulseHigh : UInt16 := 3

/-- Waveform in the high nibble; test, ring, sync and gate in the low one. -/
def control : UInt16 := 4

/-- Attack in the high nibble, decay in the low one. -/
def attackDecay : UInt16 := 5

/-- Sustain in the high nibble, release in the low one. -/
def sustainRelease : UInt16 := 6

/-! ## The chip's own registers, from its base -/

/-- The three low bits of the filter's cutoff. -/
def cutoffLow : UInt16 := 0x15

/-- The eight high bits of the filter's cutoff. -/
def cutoffHigh : UInt16 := 0x16

/-- Resonance in the high nibble, the voices sent through the filter in the low one. -/
def resonanceRouting : UInt16 := 0x17

/-- The filter's mode in the high nibble, the volume in the low one. -/
def modeVolume : UInt16 := 0x18

/-! ## Bits -/

/-- The waveform bits of a control register. -/
def waveformMask : UInt8 := 0xF0

/-- The other bits of a control register. -/
def voiceControlMask : UInt8 := 0x0F

/-- The routing bits of the filter. -/
def routingMask : UInt8 := 0x0F

/-- The mode bits of the filter. -/
def modeMask : UInt8 := 0xF0

/-- The gate bit of a control register. -/
def gateBit : UInt8 := 0x01

/-- The sync bit of a control register. -/
def syncBit : UInt8 := 0x02

/-- The ring bit of a control register. -/
def ringBit : UInt8 := 0x04

/-- The test bit of a control register. -/
def testBit : UInt8 := 0x08

/-- The mode bit that disconnects the third voice. -/
def voice3OffBit : UInt8 := 0x80

/-- The routing bit of a voice. -/
def routingBit (voice : Nat) : UInt8 :=
  UInt8.ofNat (1 <<< voice) &&& routingMask

/-! ## Addresses -/

/-- The address of a voice's register on the chip at `base`. -/
def voiceRegister (base : UInt16) (voice : Nat) (offset : UInt16) : UInt16 :=
  base + UInt16.ofNat voice * voiceStride + offset

/-- The voice whose control register lies at an offset from a chip's base. -/
def controlVoice? (offset : UInt16) : Option (Fin voiceCount) :=
  (List.finRange voiceCount).find? fun voice => voiceRegister 0 voice control == offset

/-! ## Envelope times -/

/-- Milliseconds of a release, by the release nibble. -/
def releaseMs : Vector Nat 16 :=
  #v[6, 24, 48, 72, 114, 168, 204, 240, 300, 750, 1500, 2400, 3000, 9000, 15000, 24000]

end SidScore.Chip
