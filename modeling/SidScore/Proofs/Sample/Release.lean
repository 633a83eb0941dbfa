import Mathlib.Order.Basic
import SidScore.Proofs.Sample.Gate

/-!
# Releases follow the gates

From sample to sample a voice remembers two things, the gate and the call at which a release began.
Both are updated in some samples and left alone in others, and a gate that is unset updates
nothing.  All the same, what a sample reports of a release is a matter of the sampled gates alone:
`FollowsGate` gives it in closed form, over all samples so far.

A voice is looked at by itself, as a `Trail`: the channels that are sampled of it, and what is
remembered before each sample.  The lemmas on trails are inductions over the samples; that a sampler
leaves a trail of each of its voices is `Sampler.exists_trail`.
-/

namespace SidScore

/-! ## One voice -/

/-- What is sampled of a voice, and what is remembered of it before each sample. -/
structure Trail (settings : SamplerSettings) (numbers : ℕ → UInt64) (channel : ℕ → Channel)
    (history : ℕ → VoiceHistory) : Prop where
  initial : history 0 = .initial
  advance : ∀ k, history (k + 1) = (history k).advance (numbers k) (channel k).gate
  /-- A gate that was seen is not unset again. -/
  unset : ∀ k, (channel k).gate = .unset → (history k).gate = .unset
  releaseStart : ∀ k, (channel k).releaseStart = (history (k + 1)).releaseStart
  inRelease : ∀ k, (channel k).inRelease = (channel k).releaseStart.any
    (settings.stillReleasing (channel k).release (numbers k))

/-- What the sample `k` of a voice reports of its gate and its release, given all samples so far. -/
structure FollowsGate (numbers : ℕ → UInt64) (channel : ℕ → Channel) (k : ℕ) : Prop where
  /-- There is no release while the gate is open, and none before it has been open. -/
  absent : (channel k).gate = .on ∨ (∀ j ≤ k, (channel j).gate ≠ .on) →
    (channel k).releaseStart = none
  /-- Else it began with the first sample after the latest that had the gate open. -/
  start : ∀ j < k, (channel j).gate = .on → (∀ i, j < i → i ≤ k → (channel i).gate ≠ .on) →
    (channel k).releaseStart = some (numbers (j + 1))
  /-- The calls that have passed since are counted without wrapping. -/
  elapsed : (∀ i j, i < j → j ≤ k → numbers i < numbers j) →
    ∀ start, (channel k).releaseStart = some start →
      start ≤ numbers k ∧ (numbers k - start).toNat = (numbers k).toNat - start.toNat
  /-- What still sounds is a release that began, of a gate that is not open. -/
  inRelease : (channel k).inRelease = true →
    (channel k).releaseStart.isSome = true ∧ (channel k).gate ≠ .on
  /-- A gate that was seen is not unset again. -/
  set : ∀ j ≤ k, (channel j).gate ≠ .unset → (channel k).gate ≠ .unset

lemma VoiceHistory.releaseStart_advance (history : VoiceHistory) (call : UInt64) {gate : GateState}
    (closed : gate ≠ .on) : (history.advance call gate).releaseStart =
      if history.gate = .on ∧ gate ≠ .unset then some call else history.releaseStart := by
  cases gate with
  | on => exact absurd rfl closed
  | off => simp [advance]
  | unset => simp [advance]

namespace Trail

variable {settings : SamplerSettings} {numbers : ℕ → UInt64} {channel : ℕ → Channel}
  {history : ℕ → VoiceHistory}

/-- The gate is remembered as open exactly after a sample that had it open. -/
lemma gate_eq_on_iff (h : Trail settings numbers channel history) (k : ℕ) :
    (history (k + 1)).gate = .on ↔ (channel k).gate = .on := by
  rw [h.advance, VoiceHistory.gate_advance]
  by_cases unset : (channel k).gate = .unset
  · simp [unset, h.unset k unset]
  · simp [unset]

lemma set_of_le (h : Trail settings numbers channel history) {j k : ℕ} (earlier : j ≤ k)
    (set : (channel j).gate ≠ .unset) : (channel k).gate ≠ .unset := by
  induction k, earlier using Nat.le_induction with
  | base => exact set
  | succ k _ ih =>
    intro unset
    have remembered := h.unset (k + 1) unset
    rw [h.advance, VoiceHistory.gate_advance, if_neg ih] at remembered
    exact ih remembered

/-! ### One sample -/

lemma releaseStart_of_on (h : Trail settings numbers channel history) {k : ℕ}
    (opened : (channel k).gate = .on) : (channel k).releaseStart = none := by
  rw [h.releaseStart, h.advance, opened]
  rfl

lemma releaseStart_zero (h : Trail settings numbers channel history) :
    (channel 0).releaseStart = none := by
  by_cases opened : (channel 0).gate = .on
  · exact h.releaseStart_of_on opened
  · rw [h.releaseStart, h.advance, VoiceHistory.releaseStart_advance _ _ opened, h.initial]
    simp [VoiceHistory.initial]

/-- A gate that was open and is not begins a release. -/
lemma releaseStart_of_closes (h : Trail settings numbers channel history) {k : ℕ}
    (opened : (channel k).gate = .on) (closed : (channel (k + 1)).gate ≠ .on) :
    (channel (k + 1)).releaseStart = some (numbers (k + 1)) := by
  have set : (channel (k + 1)).gate ≠ .unset := by
    apply h.set_of_le (Nat.le_succ k)
    simp [opened]
  have remembered : (history (k + 1)).gate = .on := (h.gate_eq_on_iff k).mpr opened
  rw [h.releaseStart, h.advance, VoiceHistory.releaseStart_advance _ _ closed,
    if_pos ⟨remembered, set⟩]

/-- While the gate stays closed, the release stays what it was. -/
lemma releaseStart_of_closed (h : Trail settings numbers channel history) {k : ℕ}
    (before : (channel k).gate ≠ .on) (closed : (channel (k + 1)).gate ≠ .on) :
    (channel (k + 1)).releaseStart = (channel k).releaseStart := by
  have remembered : (history (k + 1)).gate ≠ .on := mt (h.gate_eq_on_iff k).mp before
  rw [h.releaseStart, h.advance, VoiceHistory.releaseStart_advance _ _ closed, h.releaseStart]
  simp [remembered]

/-! ### All samples -/

lemma releaseStart_of_never (h : Trail settings numbers channel history) {k : ℕ}
    (never : ∀ j ≤ k, (channel j).gate ≠ .on) : (channel k).releaseStart = none := by
  induction k with
  | zero => exact h.releaseStart_zero
  | succ k ih =>
    rw [h.releaseStart_of_closed (never k (Nat.le_succ k)) (never (k + 1) le_rfl)]
    apply ih
    intro j hj
    exact never j (Nat.le_succ_of_le hj)

lemma releaseStart_of_closed_since (h : Trail settings numbers channel history) {j k : ℕ}
    (later : j + 1 ≤ k) (opened : (channel j).gate = .on)
    (closed : ∀ i, j < i → i ≤ k → (channel i).gate ≠ .on) :
    (channel k).releaseStart = some (numbers (j + 1)) := by
  induction k, later using Nat.le_induction with
  | base => exact h.releaseStart_of_closes opened (closed (j + 1) (Nat.lt_succ_self j) le_rfl)
  | succ k later ih =>
    have before := closed k later (Nat.le_succ k)
    rw [h.releaseStart_of_closed before (closed (k + 1) (Nat.lt_succ_of_lt later) le_rfl)]
    apply ih
    intro i hi bound
    exact closed i hi (Nat.le_succ_of_le bound)

/-- A release begins with one of the calls sampled so far. -/
lemma exists_call (h : Trail settings numbers channel history) {k : ℕ} {start : UInt64}
    (released : (channel k).releaseStart = some start) : ∃ i ≤ k, numbers i = start := by
  induction k with
  | zero =>
    rw [h.releaseStart_zero] at released
    cases released
  | succ k ih =>
    by_cases opened : (channel (k + 1)).gate = .on
    · rw [h.releaseStart_of_on opened] at released
      cases released
    · by_cases before : (channel k).gate = .on
      · rw [h.releaseStart_of_closes before opened] at released
        exact ⟨k + 1, le_rfl, Option.some.inj released⟩
      · rw [h.releaseStart_of_closed before opened] at released
        obtain ⟨i, hi, same⟩ := ih released
        exact ⟨i, Nat.le_succ_of_le hi, same⟩

/-- **What is reported of a release** follows the gates. -/
lemma followsGate (h : Trail settings numbers channel history) (k : ℕ) :
    FollowsGate numbers channel k where
  absent := by
    rintro (opened | never)
    · exact h.releaseStart_of_on opened
    · exact h.releaseStart_of_never never
  start := by
    intro j earlier opened closed
    exact h.releaseStart_of_closed_since earlier opened closed
  elapsed := by
    intro increasing start released
    obtain ⟨i, hi, rfl⟩ := h.exists_call released
    have order : numbers i ≤ numbers k := by
      rcases hi.eq_or_lt with rfl | earlier
      · exact UInt64.le_refl _
      · exact UInt64.le_of_lt (increasing i k earlier le_rfl)
    exact ⟨order, UInt64.toNat_sub_of_le _ _ order⟩
  inRelease := by
    intro sounds
    rw [h.inRelease] at sounds
    refine ⟨?_, ?_⟩
    · cases released : (channel k).releaseStart with
      | none => simp [released] at sounds
      | some start => rfl
    · intro opened
      simp [h.releaseStart_of_on opened] at sounds
  set := by
    intro j earlier set
    exact h.set_of_le earlier set

end Trail

/-! ## All voices -/

/-- What a sampler is given after a call. -/
structure SampledCall where
  /-- The memory. -/
  memory : BankedMemory
  /-- The stores observed during the call. -/
  stores : List Store
  /-- The number of the call. -/
  number : UInt64
  /-- Its time in thousandths of a frame. -/
  time : UInt64

namespace Sampler

variable (start : Sampler) (calls : ℕ → SampledCall)

/-- The sampler after a number of calls. -/
def after : ℕ → Sampler
  | 0 => start
  | k + 1 => ((after k).sample (calls k).memory (calls k).stores (calls k).number (calls k).time).2

/-- The row sampled after a call. -/
def row (k : ℕ) : Row :=
  ((start.after calls k).sample (calls k).memory (calls k).stores (calls k).number
    (calls k).time).1

lemma length_chips_after (k : ℕ) : (start.after calls k).chips.length = start.chips.length := by
  induction k with
  | zero => rfl
  | succ k ih => exact (length_sample_tracked ..).trans ih

/-- Every voice of a sampler leaves a trail. -/
lemma exists_trail (bases : List UInt16) (region : Region) (tuning multispeed : Float)
    (calls : ℕ → SampledCall) {index : ℕ} (inside : index < bases.length)
    (voice : Fin Chip.voiceCount) :
    ∃ channel history,
      (∀ k, ((Sampler.new bases region tuning multispeed).row calls k).chips[index]?.map
        (·.channels.get voice) = some (channel k)) ∧
      Trail (Sampler.new bases region tuning multispeed).settings (fun k => (calls k).number)
        channel history := by
  set start := Sampler.new bases region tuning multispeed with hstart
  have tracked (k : ℕ) : ∃ chip, (start.after calls k).chips[index]? = some chip := by
    have length : (start.after calls k).chips.length = bases.length := by
      simp [length_chips_after, hstart, Sampler.new]
    exact ⟨_, List.getElem?_eq_getElem (length ▸ inside)⟩
  choose chip hchip using tracked
  have settings (k : ℕ) : (start.after calls k).settings = start.settings := by
    induction k with
    | zero => rfl
    | succ k ih => exact ih
  have sampled (k : ℕ) := (start.after calls k).sample_chip (calls k).memory (calls k).stores
    (calls k).number (calls k).time (hchip k)
  choose routing state next hstate hnext _ voices using sampled
  have same (k : ℕ) : next k = chip (k + 1) :=
    Option.some.inj ((hnext k).symm.trans (hchip (k + 1)))
  refine ⟨fun k => (state k).channels.get voice, fun k => (chip k).voices.get voice, ?_, ?_⟩
  · intro k
    rw [row, hstate, Option.map_some]
  · refine ⟨?_, fun k => ?_, fun k => ?_, fun k => ?_, fun k => ?_⟩
    · have first := hchip 0
      simp only [after, hstart, Sampler.new, List.getElem?_map, Option.map_eq_some_iff] at first
      obtain ⟨base, -, same⟩ := first
      simp [← same, Vector.get]
    · rw [← same, (voices k voice).2, (voices k voice).1]
      rfl
    · intro unset
      by_contra seen
      rw [(voices k voice).1, (SamplerSettings.gate_sampleVoice_of_touched _ _ _ _ _ _ _
        (.inr seen)).1] at unset
      exact gateOf_ne_unset _ unset
    · rw [← same, (voices k voice).2, (voices k voice).1]
      rfl
    · rw [(voices k voice).1, settings]
      rfl

end Sampler

/-- **Releases follow the gates.**  Take any chips, and sample them after one call after another,
whatever the memories and the stores.  In every sample of every voice a release is reported exactly
where the gate has been open and is no longer, and it began with the first sample after the latest
that had the gate open.  Only such a release is reported as sounding.  Its calls are counted without
wrapping as long as the calls are numbered upwards, and a gate that was once seen open or closed is
never reported as unset again. -/
theorem releases_follow_gates (bases : List UInt16) (region : Region) (tuning multispeed : Float)
    (calls : ℕ → SampledCall) (index : Fin bases.length) (voice : Fin Chip.voiceCount) :
    ∃ channel : ℕ → Channel,
      (∀ k, ((Sampler.new bases region tuning multispeed).row calls k).chips[index]?.map
        (·.channels.get voice) = some (channel k)) ∧
      ∀ k, FollowsGate (fun k => (calls k).number) channel k := by
  obtain ⟨channel, history, sampled, trail⟩ :=
    Sampler.exists_trail bases region tuning multispeed calls index.isLt voice
  exact ⟨channel, sampled, trail.followsGate⟩

end SidScore
