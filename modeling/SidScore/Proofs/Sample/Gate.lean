import SidScore.Proofs.Chip.Decoding
import SidScore.Sample.Sampler

/-!
# The gate in a sample

A sampled gate is unset until the sampler has seen a sign that the voice's control register was
written, and from then on it is the register's gate bit.  Here that is said of one sample: what
counts as a sign (`Touched`), how the sign of an earlier sample is remembered, and that the bit is
read off the register itself.
-/

namespace SidScore

/-! ## One voice -/

/-- The gate that a control byte stands for. -/
def gateOf (control : UInt8) : GateState :=
  if control &&& Chip.gateBit != 0 then .on else .off

lemma gateOf_ne_unset (control : UInt8) : gateOf control ≠ .unset := by
  unfold gateOf
  split <;> nofun

/-- The memory shows a sign that a register was written: the log has its address, or one of the
stores decodes to it. -/
def BankedMemory.Touched (memory : BankedMemory) (stores : List Store) (register : UInt16) : Prop :=
  memory.wasWritten register = true ∨ ∃ store ∈ stores, memory.canonical store.address = register

lemma VoiceHistory.gate_advance (history : VoiceHistory) (call : UInt64) (gate : GateState) :
    (history.advance call gate).gate = if gate = .unset then history.gate else gate := by
  cases gate <;> rfl

namespace SamplerSettings

variable (settings : SamplerSettings) (memory : BankedMemory) (stores : List Store) (call : UInt64)
  (chip : TrackedChip) (routing : UInt8) (voice : Fin Chip.voiceCount)

/-- What is remembered of a gate: what was seen, unless nothing was. -/
lemma gate_remembered :
    (settings.sampleVoice memory stores call chip routing voice).2.gate =
      if (settings.sampleVoice memory stores call chip routing voice).1.gate = .unset then
        (chip.voices.get voice).gate
      else (settings.sampleVoice memory stores call chip routing voice).1.gate :=
  VoiceHistory.gate_advance _ _ _

/-- The gate is unset while there is neither a sign nor the memory of one. -/
lemma gate_sampleVoice_of_untouched
    (untouched : ¬ memory.Touched stores (Chip.voiceRegister chip.base voice Chip.control))
    (never : (chip.voices.get voice).gate = .unset) :
    (settings.sampleVoice memory stores call chip routing voice).1.gate = .unset ∧
      (settings.sampleVoice memory stores call chip routing voice).2.gate = .unset := by
  set register := Chip.voiceRegister chip.base voice Chip.control with hregister
  have unlogged : memory.wasWritten register = false :=
    Bool.eq_false_of_not_eq_true fun logged => untouched (.inl logged)
  have none : memory.storesTo register stores = [] := by
    rw [BankedMemory.storesTo, List.map_eq_nil_iff, List.filter_eq_nil_iff]
    intro store hstore decodes
    exact untouched (.inr ⟨store, hstore, beq_iff_eq.mp decodes⟩)
  have gate : (settings.sampleVoice memory stores call chip routing voice).1.gate = .unset := by
    simp only [sampleVoice, track, ← hregister, unlogged, none, never]
    rfl
  exact ⟨gate, by rw [gate_remembered, if_pos gate, never]⟩

/-- With a sign, or the memory of one, the gate is the bit of the register. -/
lemma gate_sampleVoice_of_touched
    (touched : memory.Touched stores (Chip.voiceRegister chip.base voice Chip.control) ∨
      (chip.voices.get voice).gate ≠ .unset) :
    (settings.sampleVoice memory stores call chip routing voice).1.gate =
        gateOf (memory.fetch (Chip.voiceRegister chip.base voice Chip.control)) ∧
      (settings.sampleVoice memory stores call chip routing voice).2.gate =
        gateOf (memory.fetch (Chip.voiceRegister chip.base voice Chip.control)) := by
  set register := Chip.voiceRegister chip.base voice Chip.control with hregister
  have gate : (settings.sampleVoice memory stores call chip routing voice).1.gate =
      gateOf (memory.fetch register) := by
    have known : (!(memory.wasWritten register || !(memory.storesTo register stores).isEmpty) &&
        decide ((chip.voices.get voice).gate = .unset)) = false := by
      rcases touched with (logged | ⟨store, hstore, decodes⟩) | seen
      · rw [logged]
        rfl
      · have mem : store.value ∈ memory.storesTo register stores :=
          List.mem_map_of_mem (List.mem_filter.mpr ⟨hstore, beq_iff_eq.mpr decodes⟩)
        cases hlist : memory.storesTo register stores with
        | nil =>
          rw [hlist] at mem
          cases mem
        | cons first rest => simp
      · simp [seen]
    simp only [sampleVoice, track, ← hregister, known]
    rfl
  exact ⟨gate, by rw [gate_remembered, gate, if_neg (gateOf_ne_unset _)]⟩

lemma test_sampleVoice : (settings.sampleVoice memory stores call chip routing voice).1.test =
    (memory.fetch (Chip.voiceRegister chip.base voice Chip.control) &&& Chip.testBit != 0) :=
  rfl

end SamplerSettings

/-! ## All voices -/

/-- Each voice of a chip is sampled by itself. -/
lemma SamplerSettings.get_sampleChip (settings : SamplerSettings) (memory : BankedMemory)
    (stores : List Store) (call : UInt64) (chip : TrackedChip) (voice : Fin Chip.voiceCount) :
    let sampled := settings.sampleVoice memory stores call chip
      (memory.fetch (chip.base + Chip.resonanceRouting) &&& Chip.routingMask) voice
    (settings.sampleChip memory stores call chip).1.channels.get voice = sampled.1 ∧
      (settings.sampleChip memory stores call chip).2.voices.get voice = sampled.2 := by
  simp only [sampleChip, Vector.get, Vector.toArray_map, Vector.toArray_ofFn,
    Array.getElem_map, Array.getElem_ofFn]
  exact ⟨rfl, rfl⟩

lemma Sampler.exists_chip {sampler : Sampler} {bases : List UInt16}
    (h : sampler.chips.map TrackedChip.base = bases) {index : ℕ} {base : UInt16}
    (hbase : bases[index]? = some base) :
    ∃ chip, sampler.chips[index]? = some chip ∧ chip.base = base := by
  rw [← h, List.getElem?_map, Option.map_eq_some_iff] at hbase
  exact hbase

/-- Each chip is sampled by itself. -/
lemma Sampler.getElem?_sample (sampler : Sampler) (memory : BankedMemory) (stores : List Store)
    (call time : UInt64) {index : ℕ} {chip : TrackedChip}
    (h : sampler.chips[index]? = some chip) :
    (sampler.sample memory stores call time).1.chips[index]? =
        some (sampler.settings.sampleChip memory stores call chip).1 ∧
      (sampler.sample memory stores call time).2.chips[index]? =
        some (sampler.settings.sampleChip memory stores call chip).2 := by
  constructor
  · simp only [sample, List.getElem?_map, h, Option.map_some]
  · simp only [sample, List.getElem?_map, h, Option.map_some]

lemma Sampler.sample_chip (sampler : Sampler) (memory : BankedMemory) (stores : List Store)
    (call time : UInt64) {index : ℕ} {chip : TrackedChip}
    (h : sampler.chips[index]? = some chip) : ∃ routing state tracked,
      (sampler.sample memory stores call time).1.chips[index]? = some state ∧
        (sampler.sample memory stores call time).2.chips[index]? = some tracked ∧
        tracked.base = chip.base ∧ ∀ voice,
          state.channels.get voice =
              (sampler.settings.sampleVoice memory stores call chip routing voice).1 ∧
            tracked.voices.get voice =
              (sampler.settings.sampleVoice memory stores call chip routing voice).2 := by
  obtain ⟨state, tracked⟩ := sampler.getElem?_sample memory stores call time h
  exact ⟨_, _, _, state, tracked, rfl, sampler.settings.get_sampleChip memory stores call chip⟩

namespace Sampler

variable (sampler : Sampler) (memory : BankedMemory) (stores : List Store) (call time : UInt64)

lemma length_sample_chips :
    (sampler.sample memory stores call time).1.chips.length = sampler.chips.length := by
  simp [sample]

lemma length_sample_tracked :
    (sampler.sample memory stores call time).2.chips.length = sampler.chips.length := by
  simp [sample]

/-- No voice is marked before notes are extracted. -/
lemma sample_unmarked {chip : ChipState}
    (h : chip ∈ (sampler.sample memory stores call time).1.chips) (voice : Fin Chip.voiceCount) :
    (chip.channels.get voice).newNote = false := by
  simp only [sample, List.map_map, List.mem_map] at h
  obtain ⟨tracked, -, rfl⟩ := h
  simp [SamplerSettings.sampleChip, SamplerSettings.sampleVoice, SamplerSettings.track,
    BankedMemory.readChannel, Vector.get, Channel.silent]

end Sampler

/-- While the registers show, a register of a chip reads as what the register file holds. -/
lemma BankedMemory.fetch_register {memory : BankedMemory} {base address : UInt16}
    (legal : Chip.LegalBase base) (h : Chip.IsRegister base address)
    (shows : memory.banking.state.io = true) :
    memory.fetch address = memory.ioRegister address := by
  refine fetch_of_inRegisterArea ?_ shows
  unfold Chip.LegalBase at legal
  unfold Chip.IsRegister at h
  simp only [InRegisterArea, UInt16.le_iff_toNat_le, UInt16.lt_iff_toNat_lt, UInt16.reduceToNat]
  omega

end SidScore
