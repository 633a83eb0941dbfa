import SidScore.Memory.Banked
import SidScore.Sample.Row
import SidScore.Score.Pitch

/-!
# Sampling the chips

After each call the registers of every chip are read, without logging the reads, and decoded.  For
each voice the sampler also remembers two things from call to call: the gate as it was last seen,
and the call at which a release began.

## The history of a gate

A gate is unset until the voice's control register is written.  Whether it was written is known
from the access log, which holds the register's own address, and from the stores observed during
the call, which are followed through the chip's repetitions.  The same stores, taken in order from
the gate as it was last seen, show how often the gate changed within the call.
-/

namespace SidScore

/-- What is remembered of a voice. -/
structure VoiceHistory where
  /-- The gate as last seen. -/
  gate : GateState
  /-- The call at which the gate was seen to close, until it opens again. -/
  releaseStart : Option UInt64
  deriving Repr, DecidableEq, Inhabited

namespace VoiceHistory

/-- What is remembered of a voice that was never seen. -/
def initial : VoiceHistory :=
  ⟨.unset, none⟩

/-- What is remembered after the gate was seen at a call. -/
def advance (history : VoiceHistory) (call : UInt64) (gate : GateState) : VoiceHistory :=
  match gate with
  | .on => ⟨.on, none⟩
  | .off => ⟨.off, if history.gate = .on then some call else history.releaseStart⟩
  | .unset => history

end VoiceHistory

/-- A chip under observation. -/
structure TrackedChip where
  /-- The base address. -/
  base : UInt16
  /-- What is remembered of the voices. -/
  voices : Vector VoiceHistory Chip.voiceCount
  deriving Repr, Inhabited

/-- What turns registers into pitches and times. -/
structure SamplerSettings where
  /-- The video standard, which fixes the clock. -/
  region : Region
  /-- The concert pitch. -/
  tuning : Float
  /-- Milliseconds of a call. -/
  callMs : Float
  deriving Repr, Inhabited

/-- The chips under observation. -/
structure Sampler where
  /-- How registers are read. -/
  settings : SamplerSettings
  /-- The chips, first chip first. -/
  chips : List TrackedChip
  deriving Repr, Inhabited

/-! ## One voice -/

/-- The number of changes in a sequence of gate bits, starting from `gate`. -/
def gateChanges (gate : Bool) : List Bool → Nat
  | [] => 0
  | next :: rest => (if next = gate then 0 else 1) + gateChanges next rest

namespace BankedMemory

/-- The bytes that stores put into the register at a canonical address, in order. -/
def storesTo (memory : BankedMemory) (register : UInt16) (stores : List Store) : List UInt8 :=
  (stores.filter fun store => memory.canonical store.address == register).map Store.value

/-- Reads a voice off its registers.  Pitch and history are not known from them. -/
def readChannel (memory : BankedMemory) (base : UInt16) (routing : UInt8) (voice : Nat) :
    Channel :=
  let register (offset : UInt16) : UInt8 :=
    memory.fetch (Chip.voiceRegister base voice offset)
  let control := register Chip.control
  let attackDecay := register Chip.attackDecay
  let sustainRelease := register Chip.sustainRelease
  { Channel.silent with
    frequency := wordOf (register Chip.frequencyLow) (register Chip.frequencyHigh)
    pulseWidth := wordOf (register Chip.pulseLow) (register Chip.pulseHigh &&& 0x0F)
    attack := attackDecay >>> 4
    decay := attackDecay &&& 0x0F
    sustain := sustainRelease >>> 4
    release := sustainRelease &&& 0x0F
    waveform := control &&& Chip.waveformMask
    gate := if control &&& Chip.gateBit != 0 then .on else .off
    sync := control &&& Chip.syncBit != 0
    ring := control &&& Chip.ringBit != 0
    test := control &&& Chip.testBit != 0
    filtered := routing &&& Chip.routingBit voice != 0 }

end BankedMemory

namespace SamplerSettings

/-- A release that began at a call still sounds at a later one. -/
def stillReleasing (settings : SamplerSettings) (release : UInt8) (call start : UInt64) : Bool :=
  let elapsed := (call - start).toFloat * settings.callMs
  elapsed < (Chip.releaseMs.get ⟨release.toNat % 16, Nat.mod_lt _ (Nat.zero_lt_succ 15)⟩).toFloat

/-- Completes a voice that was read off its registers, and remembers it. -/
def track (settings : SamplerSettings) (call : UInt64) (written : Bool) (controls : List UInt8)
    (history : VoiceHistory) (channel : Channel) : Channel × VoiceHistory :=
  let touched := written || !controls.isEmpty
  let gate := if !touched && history.gate = .unset then .unset else channel.gate
  let changes := gateChanges (history.gate = .on) (controls.map (· &&& Chip.gateBit != 0))
  let history := history.advance call gate
  let pitch := Pitch.ofFrequency? channel.frequency settings.region settings.tuning
  ({ channel with
      gate
      gateDoubleToggle := 2 ≤ changes
      releaseStart := history.releaseStart
      inRelease := history.releaseStart.any (settings.stillReleasing channel.release call)
      note := pitch.map Pitch.note
      cents := (pitch.map Pitch.cents).getD channel.cents },
    history)

/-- Samples one voice. -/
def sampleVoice (settings : SamplerSettings) (memory : BankedMemory) (stores : List Store)
    (call : UInt64) (chip : TrackedChip) (routing : UInt8) (voice : Fin Chip.voiceCount) :
    Channel × VoiceHistory :=
  let control := Chip.voiceRegister chip.base voice Chip.control
  settings.track call (memory.wasWritten control) (memory.storesTo control stores)
    (chip.voices.get voice) (memory.readChannel chip.base routing voice)

/-! ## One chip -/

/-- Samples one chip. -/
def sampleChip (settings : SamplerSettings) (memory : BankedMemory) (stores : List Store)
    (call : UInt64) (chip : TrackedChip) : ChipState × TrackedChip :=
  let register (offset : UInt16) : UInt8 := memory.fetch (chip.base + offset)
  let modeVolume := register Chip.modeVolume
  let resonanceRouting := register Chip.resonanceRouting
  let routing := resonanceRouting &&& Chip.routingMask
  let sampled := Vector.ofFn (settings.sampleVoice memory stores call chip routing)
  ({ volume := modeVolume &&& 0x0F
     cutoff := ((register Chip.cutoffHigh).toUInt16 <<< 3)
       ||| ((register Chip.cutoffLow).toUInt16 &&& 0x07)
     resonance := resonanceRouting >>> 4
     routing
     mode := modeVolume &&& Chip.modeMask &&& ~~~Chip.voice3OffBit
     voice3Off := modeVolume &&& Chip.voice3OffBit != 0
     channels := sampled.map Prod.fst },
    { chip with voices := sampled.map Prod.snd })

end SamplerSettings

/-! ## All chips -/

namespace Sampler

/-- A sampler for the chips at the given bases, at a number of calls a frame. -/
def new (bases : List UInt16) (region : Region) (tuning multispeed : Float) : Sampler where
  settings := ⟨region, tuning, region.frameMs / multispeed⟩
  chips := bases.map fun base => ⟨base, .replicate Chip.voiceCount .initial⟩

/-- The number of voices of all chips. -/
def voiceCount (sampler : Sampler) : Nat :=
  sampler.chips.length * Chip.voiceCount

/-- Samples all chips after a call, given the stores observed during it. -/
def sample (sampler : Sampler) (memory : BankedMemory) (stores : List Store)
    (call time : UInt64) : Row × Sampler :=
  let sampled := sampler.chips.map (sampler.settings.sampleChip memory stores call)
  (⟨call, time, sampled.map Prod.fst⟩, { sampler with chips := sampled.map Prod.snd })

end Sampler

end SidScore
