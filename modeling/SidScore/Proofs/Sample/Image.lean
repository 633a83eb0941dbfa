import SidScore.Proofs.Player.History
import SidScore.Proofs.Sample.Gate
import SidScore.Proofs.Session.Steps

/-!
# A sample is an image of the chips

A sampled chip has its registers taken apart into fields.  Put together again, the fields give back
every bit that the chip uses: all of its own registers, the twelve bits of a pulse width, and of a
voice's control register the gate only while it is not unset.  `ChipState.Images` says so of bytes
given by address.

That these bytes are those of the chip takes two more things.  The sampler looks through the bus,
so the registers must show there, which the player has seen to after each call of the play routine;
and what shows must be what was stored, which is the register's history.  The main theorem puts the
three together, for any calls of a tune that was loaded.
-/

namespace SidScore

/-! ## Fields as bytes -/

def flagBit (bit : UInt8) (flag : Bool) : UInt8 :=
  if flag then bit else 0

/-- The control register of a voice whose gate is known. -/
def Channel.control (channel : Channel) : UInt8 :=
  channel.waveform ||| flagBit Chip.testBit channel.test ||| flagBit Chip.ringBit channel.ring
    ||| flagBit Chip.syncBit channel.sync ||| flagBit Chip.gateBit (channel.gate = .on)

namespace ChipState

variable (chip : ChipState)

/-- The register of filter mode and volume. -/
def modeVolume : UInt8 :=
  chip.mode ||| flagBit Chip.voice3OffBit chip.voice3Off ||| chip.volume

/-- The register of resonance and routing. -/
def resonanceRouting : UInt8 :=
  (chip.resonance <<< 4) ||| chip.routing

/-- The eight high bits of the cutoff. -/
def cutoffHigh : UInt8 :=
  (chip.cutoff >>> 3).toUInt8

/-- The three low bits of the cutoff. -/
def cutoffLow : UInt8 :=
  (chip.cutoff &&& 0x07).toUInt8

end ChipState

/-- The fields of a voice give back its registers, which are told by their places within the
voice. -/
structure Channel.Images (channel : Channel) (register : UInt16 → UInt8) : Prop where
  frequencyLow : lowByte channel.frequency = register Chip.frequencyLow
  frequencyHigh : highByte channel.frequency = register Chip.frequencyHigh
  pulseLow : lowByte channel.pulseWidth = register Chip.pulseLow
  /-- Four bits of this register are connected. -/
  pulseHigh : highByte channel.pulseWidth = register Chip.pulseHigh &&& 0x0F
  attackDecay : channel.attackDecay = register Chip.attackDecay
  sustainRelease : channel.sustainRelease = register Chip.sustainRelease
  control : channel.gate ≠ .unset → channel.control = register Chip.control

/-- The fields of a chip give back its registers, which are told by their addresses. -/
structure ChipState.Images (chip : ChipState) (base : UInt16) (register : UInt16 → UInt8) :
    Prop where
  modeVolume : chip.modeVolume = register (base + Chip.modeVolume)
  resonanceRouting : chip.resonanceRouting = register (base + Chip.resonanceRouting)
  cutoffHigh : chip.cutoffHigh = register (base + Chip.cutoffHigh)
  /-- Three bits of this register are connected. -/
  cutoffLow : chip.cutoffLow = register (base + Chip.cutoffLow) &&& 0x07
  voices : ∀ voice : Fin Chip.voiceCount,
    (chip.channels.get voice).Images fun offset => register (Chip.voiceRegister base voice offset)

/-! ## Taking apart and putting together -/

lemma joinNibbles (byte : UInt8) : ((byte >>> 4) <<< 4) ||| (byte &&& 0x0F) = byte :=
  forall_byte (P := fun byte => ((byte >>> 4) <<< 4) ||| (byte &&& 0x0F) = byte)
    (by decide +kernel) byte

/-- The cutoff is the high byte and three bits of the low one. -/
lemma toNat_cutoff (high low : UInt8) :
    ((high.toUInt16 <<< 3) ||| (low.toUInt16 &&& 0x07)).toNat = high.toNat * 8 + low.toNat % 8 := by
  have bound := high.toNat_lt
  have mask : UInt16.toNat 0x07 = 2 ^ 3 - 1 := rfl
  have places : UInt16.toNat 3 % 16 = 3 := rfl
  have fits : (high.toUInt16 <<< 3).toNat = high.toNat <<< 3 := by
    have shifted : high.toNat <<< 3 = high.toNat * 8 := Nat.shiftLeft_eq _ _
    rw [UInt16.toNat_shiftLeft, UInt8.toNat_toUInt16, places]
    exact Nat.mod_eq_of_lt (by omega)
  have bits : (low.toUInt16 &&& 0x07).toNat = low.toNat % 2 ^ 3 := by
    rw [UInt16.toNat_and, UInt8.toNat_toUInt16, mask, Nat.and_two_pow_sub_one_eq_mod]
  have small : low.toNat % 2 ^ 3 < 2 ^ 3 := Nat.mod_lt _ (by decide)
  rw [UInt16.toNat_or, fits, bits]
  exact shiftLeft_or high.toNat small

lemma cutoff_high (high low : UInt8) :
    (((high.toUInt16 <<< 3) ||| (low.toUInt16 &&& 0x07)) >>> 3).toUInt8 = high := by
  have bound := high.toNat_lt
  have places : UInt16.toNat 3 % 16 = 3 := rfl
  have shifted (n : ℕ) : n >>> 3 = n / 8 := Nat.shiftRight_eq_div_pow n 3
  rw [← UInt8.toNat_inj, UInt16.toNat_toUInt8, UInt16.toNat_shiftRight, places, shifted,
    toNat_cutoff]
  omega

lemma cutoff_low (high low : UInt8) :
    (((high.toUInt16 <<< 3) ||| (low.toUInt16 &&& 0x07)) &&& 0x07).toUInt8 = low &&& 0x07 := by
  have wide : UInt16.toNat 0x07 = 2 ^ 3 - 1 := rfl
  have narrow : UInt8.toNat 0x07 = 2 ^ 3 - 1 := rfl
  rw [← UInt8.toNat_inj, UInt16.toNat_toUInt8, UInt16.toNat_and, UInt8.toNat_and, wide, narrow,
    Nat.and_two_pow_sub_one_eq_mod, Nat.and_two_pow_sub_one_eq_mod, toNat_cutoff]
  omega

namespace SamplerSettings

variable (settings : SamplerSettings) (memory : BankedMemory) (stores : List Store) (call : UInt64)
  (chip : TrackedChip)

/-- The gate of a sampled voice is unset, or the bit of its register. -/
lemma gate_sampleVoice (routing : UInt8) (voice : Fin Chip.voiceCount) :
    (settings.sampleVoice memory stores call chip routing voice).1.gate = .unset ∨
      (settings.sampleVoice memory stores call chip routing voice).1.gate =
        gateOf (memory.fetch (Chip.voiceRegister chip.base voice Chip.control)) := by
  by_cases touched : memory.Touched stores (Chip.voiceRegister chip.base voice Chip.control) ∨
      (chip.voices.get voice).gate ≠ .unset
  · exact .inr (settings.gate_sampleVoice_of_touched memory stores call chip routing voice
      touched).1
  · rw [not_or, not_not] at touched
    exact .inl (settings.gate_sampleVoice_of_untouched memory stores call chip routing voice
      touched.1 touched.2).1

lemma images_sampleVoice (routing : UInt8) (voice : Fin Chip.voiceCount) :
    (settings.sampleVoice memory stores call chip routing voice).1.Images fun offset =>
      memory.fetch (Chip.voiceRegister chip.base voice offset) where
  frequencyLow := lowByte_wordOf _ _
  frequencyHigh := highByte_wordOf _ _
  pulseLow := lowByte_wordOf _ _
  pulseHigh := highByte_wordOf _ _
  attackDecay := joinNibbles _
  sustainRelease := joinNibbles _
  control known := by
    have bits : ∀ byte : UInt8, byte &&& Chip.waveformMask
        ||| flagBit Chip.testBit (byte &&& Chip.testBit != 0)
        ||| flagBit Chip.ringBit (byte &&& Chip.ringBit != 0)
        ||| flagBit Chip.syncBit (byte &&& Chip.syncBit != 0)
        ||| flagBit Chip.gateBit (gateOf byte = .on) = byte :=
      forall_byte (by decide +kernel)
    have gate :=
      (settings.gate_sampleVoice memory stores call chip routing voice).resolve_left known
    unfold Channel.control
    rw [gate]
    exact bits _

/-- A sampled chip is an image of what the sampler has looked at. -/
lemma images_sampleChip :
    (settings.sampleChip memory stores call chip).1.Images chip.base memory.fetch where
  modeVolume := by
    have bits : ∀ byte : UInt8, (byte &&& Chip.modeMask &&& ~~~Chip.voice3OffBit)
        ||| flagBit Chip.voice3OffBit (byte &&& Chip.voice3OffBit != 0)
        ||| (byte &&& 0x0F) = byte :=
      forall_byte (by decide +kernel)
    exact bits _
  resonanceRouting := joinNibbles _
  cutoffHigh := cutoff_high _ _
  cutoffLow := cutoff_low _ _
  voices voice := by
    rw [(settings.get_sampleChip memory stores call chip voice).1]
    exact settings.images_sampleVoice memory stores call chip _ voice

end SamplerSettings

/-! ## Looking at the registers -/

/-- The addresses of a chip's registers, in order. -/
def Chip.registers (base : UInt16) : List UInt16 :=
  (List.range 0x19).map fun offset => base + UInt16.ofNat offset

lemma Chip.isRegister_of_mem {base register : UInt16} (legal : LegalBase base)
    (h : register ∈ registers base) : IsRegister base register := by
  obtain ⟨offset, hoffset, rfl⟩ := List.mem_map.mp h
  have bound := List.mem_range.mp hoffset
  refine isRegister_add legal ?_
  rw [UInt16.toNat_ofNat']
  omega

/-- Looks at addresses, one after the other, and gives the memory as it is afterwards. -/
def BankedMemory.look (memory : BankedMemory) : List UInt16 → List UInt8 × BankedMemory
  | [] => ([], memory)
  | address :: rest =>
    let (byte, memory) := Bus.peek memory address
    let (bytes, memory) := memory.look rest
    (byte :: bytes, memory)

lemma BankedMemory.look_eq (memory : BankedMemory) (addresses : List UInt16) :
    memory.look addresses = (addresses.map memory.fetch, memory) := by
  induction addresses with
  | nil => rfl
  | cons address rest ih =>
    change (memory.fetch address :: (memory.look rest).1, (memory.look rest).2) = _
    rw [ih]
    rfl

lemma ChipState.Images.congr {chip : ChipState} {base : UInt16} {byte other : UInt16 → UInt8}
    (h : chip.Images base byte) (legal : Chip.LegalBase base)
    (same : ∀ register, Chip.IsRegister base register → byte register = other register) :
    chip.Images base other where
  modeVolume := h.modeVolume.trans (same _ (Chip.isRegister_add legal (by decide)))
  resonanceRouting := h.resonanceRouting.trans (same _ (Chip.isRegister_add legal (by decide)))
  cutoffHigh := h.cutoffHigh.trans (same _ (Chip.isRegister_add legal (by decide)))
  cutoffLow := by rw [h.cutoffLow, same _ (Chip.isRegister_add legal (by decide))]
  voices voice := by
    have own {offset : UInt16} (small : offset.toNat < 7) :=
      same _ (Chip.isRegister_voiceRegister legal voice small)
    have images := h.voices voice
    exact
      { frequencyLow := images.frequencyLow.trans (own (by decide))
        frequencyHigh := images.frequencyHigh.trans (own (by decide))
        pulseLow := images.pulseLow.trans (own (by decide))
        pulseHigh := by rw [images.pulseHigh, own (by decide)]
        attackDecay := images.attackDecay.trans (own (by decide))
        sustainRelease := images.sustainRelease.trans (own (by decide))
        control := fun known => (images.control known).trans (own (by decide)) }

/-! ## After every call -/

/-- **A sample is a lossless image of the chips.**  Take a tune that was loaded, any calls of it,
failing ones included, and then a call of the play routine that goes through.  The registers show
afterwards, and BASIC and the KERNAL as the routine's last control byte has it.  Whoever samples the
header's chips then gets fields that give back all registers of every chip, each of them with the
byte that was last stored to an address that decodes to it while the registers showed, and with 0 if
there was none.  Looking at the registers changes nothing in the memory or its log, and a session
goes on with the memory as the call left it, but for the stores that were taken. -/
theorem sample_images_registers {setup : Setup} {loaded : Player}
    (hload : Player.load setup = .ok loaded) (calls : List PlayerCall) {count : ℕ}
    (hplay : (loaded.after calls).play.result = .ok count) :
    let player := loaded.after calls
    let memory := player.play.state.machine.bus
    let held (register : UInt16) :=
      lastStored (·.reaches setup.canonical register) 0 (loaded.history (calls ++ [.play]))
    (∃ address, player.timing.playAddress = some address ∧
      let control := lastStored (·.address == 1)
        (setup.playControl address player.machine.bus.banking.control) player.playStores
      memory.banking.state = { BankState.ofControl control with io := true, charRom := false }) ∧
    (∀ (sampler : Sampler) (stores : List Store) (call time : UInt64),
      sampler.chips.map TrackedChip.base = setup.file.header.chipBases →
      ∀ (index : ℕ) (base : UInt16), setup.file.header.chipBases[index]? = some base →
        ∃ chip, (sampler.sample memory stores call time).1.chips[index]? = some chip ∧
          chip.Images base held) ∧
    (∀ base ∈ setup.file.header.chipBases,
      memory.look (Chip.registers base) = ((Chip.registers base).map held, memory)) ∧
    ∀ session : Session, session.player = player →
      session.step.state.player = player.play.state.takeStores.2 := by
  intro player memory held
  have fitted : player.Fitted setup := (Player.Reached.load hload).fitted.after calls
  obtain ⟨address, haddress, bank⟩ := Player.play_bank hplay
  rw [fitted.plays] at bank
  have shows : memory.banking.state.io = true := by rw [bank]
  -- What shows on the bus at a register is what its history has left there.
  have fetch_eq {base register : UInt16} (hbase : base ∈ setup.file.header.chipBases)
      (own : Chip.IsRegister base register) : memory.fetch register = held register := by
    have after := Player.ioRegister_history hload hbase own (calls ++ [.play])
    rw [Player.after_concat] at after
    have legal := setup.file.header.legalBase_of_mem hbase
    exact (BankedMemory.fetch_register legal own shows).trans after
  refine ⟨⟨address, haddress, bank⟩, ?_, fun base hbase => ?_, ?_⟩
  · intro sampler stores call time bases index base hbase
    have member : base ∈ setup.file.header.chipBases := List.mem_of_getElem? hbase
    obtain ⟨tracked, hchip, rfl⟩ := Sampler.exists_chip bases hbase
    refine ⟨_, (sampler.getElem?_sample memory stores call time hchip).1, ?_⟩
    have images := sampler.settings.images_sampleChip memory stores call tracked
    exact images.congr (setup.file.header.legalBase_of_mem member) fun _ own =>
      fetch_eq member own
  · have legal := setup.file.header.legalBase_of_mem hbase
    rw [memory.look_eq]
    refine Prod.ext (List.map_congr_left fun register hregister => ?_) rfl
    exact fetch_eq hbase (Chip.isRegister_of_mem legal hregister)
  · intro session same
    rcases session.step_cases with ⟨fault, fails, -, -⟩ | ⟨_, -, -, state⟩
    · rw [same] at fails
      cases hplay.symm.trans fails
    · rw [state, ← same]
      rfl

/-! ## A routine that hides the registers -/

/-- A tune whose play routine stores `$1F` to `$D438`, a repetition of the volume register, then
shows the character ROM instead of the registers and stores `$00` to the memory below them. -/
def hiddenVolume : Setup where
  file :=
    { header := { (default : Header) with
        version := 2, initAddress := 0x0200, playAddress := 0x0201, songs := 1, startSong := 1 }
      program := [0x60, 0xA9, 0x1F, 0x8D, 0x38, 0xD4, 0xA9, 0x31, 0x85, 0x01, 0xA9, 0x00, 0x8D,
        0x18, 0xD4, 0x60]
      loadAddress := 0x0200 }
  region := .pal
  options := .default

namespace hiddenVolume

def player : Player where
  setup := hiddenVolume
  machine := (Machine.powerOn hiddenVolume.loadedMemory).mapCpu fun cpu =>
    { cpu with exitPolicy := .whenStackEmpty hiddenVolume.options.stackWrapZone }
  timing := .initial

lemma load_eq : Player.load hiddenVolume = .ok player :=
  if_pos (by decide)

lemma exists_ok {outcome : Except TuneFault ℕ} (h : outcome.isOk = true) :
    ∃ count, outcome = .ok count := by
  cases outcome with
  | ok count => exact ⟨count, rfl⟩
  | error _ => cases h

lemma play_ok : ∃ count, (player.after [.init 1]).play.result = .ok count :=
  exists_ok (by decide +kernel)

lemma playStores_eq : (player.after [.init 1]).playStores =
    [⟨0xD438, 0x1F, true⟩, ⟨1, 0x31, true⟩, ⟨0xD418, 0x00, false⟩] := by
  decide +kernel

/-- Init stores nothing. -/
lemma history_eq : player.history [.init 1, .play] = (player.after [.init 1]).playStores := by
  have silent : player.storesIn (.init 1) = [] := by decide +kernel
  rw [Player.history, silent, List.nil_append]
  exact List.append_nil _

lemma chipBases_eq : hiddenVolume.file.header.chipBases = [0xD400] := by
  decide

def sampler : Sampler :=
  .new hiddenVolume.file.header.chipBases .pal 440.0 1.0

lemma sampler_bases :
    sampler.chips.map TrackedChip.base = hiddenVolume.file.header.chipBases := by
  rw [sampler, Sampler.new, List.map_map]
  exact List.map_id _

/-- The theorem at this tune: mode and volume are the byte that reached the chip, and the registers
show again. -/
theorem volume_sampled :
    let memory := (player.after [.init 1]).play.state.machine.bus
    ∃ chip, (sampler.sample memory [] 0 0).1.chips[0]? = some chip ∧
      chip.modeVolume = 0x1F ∧ memory.banking.state = ⟨false, false, true, false⟩ := by
  obtain ⟨count, hplay⟩ := play_ok
  obtain ⟨⟨address, -, bank⟩, image, -, -⟩ := sample_images_registers load_eq [.init 1] hplay
  obtain ⟨chip, hchip, images⟩ := image sampler [] 0 0 sampler_bases 0 0xD400
    (by rw [chipBases_eq]; rfl)
  have control (held : UInt8) : lastStored (·.address == 1) held
      [⟨0xD438, 0x1F, true⟩, ⟨1, 0x31, true⟩, ⟨0xD418, 0x00, false⟩] = 0x31 := rfl
  rw [playStores_eq, control] at bank
  refine ⟨chip, hchip, ?_, bank⟩
  rw [images.modeVolume, List.singleton_append, history_eq, playStores_eq]
  decide +kernel

end hiddenVolume

end SidScore
