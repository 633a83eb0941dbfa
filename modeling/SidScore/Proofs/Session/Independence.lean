import SidScore.Proofs.Memory.Journal
import SidScore.Proofs.Sample.Gate
import SidScore.Proofs.Score.Alike
import SidScore.Proofs.Session.Steps

/-!
# Voices do not interfere

What a timeline says of a voice depends on that voice alone.  Two histories of sampled memories may
differ in everything that other voices and chips do.  As long as they agree, call by call, on what
concerns one voice, `Moment.Agree`, the two timelines are alike on it.

Sampler, extractor and timeline are followed together as a `Transcript`, which takes one moment
after another.  A session does just that with the moments after its calls,
`transcript_after_ofPlayer`; here the memories are arbitrary, and need not come from any machine.
-/

namespace SidScore

/-! ## Transcripts -/

/-- The three that turn memories into a score. -/
structure Transcript where
  /-- The chips under observation. -/
  sampler : Sampler
  /-- What is remembered of the voices. -/
  extractor : Extractor
  /-- The events so far. -/
  timeline : Timeline

/-- Where a call stands in a tune. -/
structure Beat where
  /-- The number of the call. -/
  call : UInt64
  /-- Its time in thousandths of a frame. -/
  time : UInt64
  /-- The duration of its row. -/
  tempo : Tempo

/-- What there is to see after a call. -/
structure Moment where
  /-- The memory. -/
  memory : BankedMemory
  /-- The stores observed during the call. -/
  stores : List Store

namespace Transcript

/-- A transcript of the chips at the given bases before the first call. -/
def new (bases : List UInt16) (region : Region) (tuning multispeed : Float)
    (options : ExtractOptions) : Transcript where
  sampler := .new bases region tuning multispeed
  extractor := .new (bases.length * Chip.voiceCount) options
  timeline := .new bases.length

/-- What is extracted from the sample of a moment. -/
def extraction (transcript : Transcript) (beat : Beat) (moment : Moment) : Extraction :=
  transcript.extractor.process
    (transcript.sampler.sample moment.memory moment.stores beat.call beat.time).1
    transcript.timeline.instruments

/-- Samples the chips, extracts the events and appends them. -/
def take (transcript : Transcript) (beat : Beat) (moment : Moment) : Transcript where
  sampler := (transcript.sampler.sample moment.memory moment.stores beat.call beat.time).2
  extractor := (transcript.extraction beat moment).extractor
  timeline :=
    (Timeline.mk transcript.timeline.voices (transcript.extraction beat moment).table).appendFrom 0
      beat.time beat.tempo (transcript.extraction beat moment).events.toList

/-- The transcript of a number of calls. -/
def after (start : Transcript) (beats : ℕ → Beat) (history : ℕ → Moment) : ℕ → Transcript
  | 0 => start
  | n + 1 => (start.after beats history n).take (beats n) (history n)

end Transcript

namespace Session

/-- The transcript that a session holds. -/
def transcript (session : Session) : Transcript :=
  ⟨session.sampler, session.extractor, session.timeline⟩

lemma transcript_append (session : Session) (stores : List Store) :
    (session.append stores).transcript = session.transcript.take
      ⟨session.calls, session.time, session.tempo⟩ ⟨session.player.machine.bus, stores⟩ :=
  rfl

lemma transcript_ofPlayer (options : ImportOptions) (player : Player) :
    (ofPlayer options player).transcript = .new player.setup.file.header.chipBases
      player.setup.region options.tuning player.timing.multispeed options.extraction := by
  rw [transcript, ofPlayer, Transcript.new, Sampler.voiceCount, Sampler.new, List.length_map]

/-- Where a call stands. -/
def beat (start : Session) (call : ℕ) : Beat :=
  ⟨(start.after call).calls, (start.after call).time, (start.after call).tempo⟩

/-- What there is to see after a call. -/
def moment (start : Session) (call : ℕ) : Moment :=
  ⟨(start.after call).played.player.machine.bus, (start.after call).taken⟩

/-- A session whose calls go through transcribes the moments after them. -/
lemma transcript_after {start : Session} {calls : ℕ}
    (succeed : ∀ call < calls, (start.after call).step.result = .ok ()) :
    (start.after calls).transcript = start.transcript.after start.beat start.moment calls := by
  induction calls with
  | zero => rfl
  | succ calls ih =>
    have before := ih fun call earlier => succeed call (Nat.lt_succ_of_lt earlier)
    rw [Session.after, step_ok (succeed calls (Nat.lt_succ_self calls)), transcript_append,
      Transcript.after, ← before]
    rfl

/-- So what a session has written down, while its calls went through, is the transcript of the
moments after them. -/
lemma transcript_after_ofPlayer {options : ImportOptions} {player : Player} {calls : ℕ}
    (succeed : ∀ call < calls, ((ofPlayer options player).after call).step.result = .ok ()) :
    ((ofPlayer options player).after calls).transcript =
      (Transcript.new player.setup.file.header.chipBases player.setup.region options.tuning
        player.timing.multispeed options.extraction).after (ofPlayer options player).beat
          (ofPlayer options player).moment calls := by
  rw [transcript_after succeed, transcript_ofPlayer]

end Session

/-! ## What concerns a voice -/

/-- Two moments agree on a voice of the chip at a base: on its registers and whether its control
register is marked as written, on what was stored there during the call, and on the two bits of the
chip's own registers that name the voice. -/
structure Moment.Agree (base : UInt16) (voice : Fin Chip.voiceCount) (a b : Moment) : Prop where
  registers : ∀ offset < 7, a.memory.fetch (Chip.voiceRegister base voice offset) =
    b.memory.fetch (Chip.voiceRegister base voice offset)
  routing : a.memory.fetch (base + Chip.resonanceRouting) &&& Chip.routingBit voice =
    b.memory.fetch (base + Chip.resonanceRouting) &&& Chip.routingBit voice
  voice3Off : a.memory.fetch (base + Chip.modeVolume) &&& Chip.voice3OffBit =
    b.memory.fetch (base + Chip.modeVolume) &&& Chip.voice3OffBit
  written : a.memory.wasWritten (Chip.voiceRegister base voice Chip.control) =
    b.memory.wasWritten (Chip.voiceRegister base voice Chip.control)
  stores : a.memory.storesTo (Chip.voiceRegister base voice Chip.control) a.stores =
    b.memory.storesTo (Chip.voiceRegister base voice Chip.control) b.stores

lemma Chip.routingMask_and_routingBit :
    ∀ voice : Fin voiceCount, routingMask &&& routingBit voice = routingBit voice := by
  decide

namespace Moment.Agree

variable {base : UInt16} {voice : Fin Chip.voiceCount} {a b : Moment}

/-- What is read of the voice. -/
lemma readChannel_eq (h : Agree base voice a b) :
    a.memory.readChannel base
        (a.memory.fetch (base + Chip.resonanceRouting) &&& Chip.routingMask) voice =
      b.memory.readChannel base
        (b.memory.fetch (base + Chip.resonanceRouting) &&& Chip.routingMask) voice := by
  have filtered (memory : BankedMemory) : memory.fetch (base + Chip.resonanceRouting) &&&
      Chip.routingMask &&& Chip.routingBit voice =
        memory.fetch (base + Chip.resonanceRouting) &&& Chip.routingBit voice := by
    rw [UInt8.and_assoc, Chip.routingMask_and_routingBit]
  simp only [BankedMemory.readChannel, filtered, h.routing,
    h.registers Chip.frequencyLow (by decide), h.registers Chip.frequencyHigh (by decide),
    h.registers Chip.pulseLow (by decide), h.registers Chip.pulseHigh (by decide),
    h.registers Chip.control (by decide), h.registers Chip.attackDecay (by decide),
    h.registers Chip.sustainRelease (by decide)]

/-- What is sampled of the voice, and what is remembered of it. -/
lemma sampleVoice_eq (h : Agree base voice a b) (settings : SamplerSettings) (call : UInt64)
    {chip other : TrackedChip} (hchip : chip.base = base) (hother : other.base = base)
    (history : chip.voices.get voice = other.voices.get voice) :
    settings.sampleVoice a.memory a.stores call chip
        (a.memory.fetch (base + Chip.resonanceRouting) &&& Chip.routingMask) voice =
      settings.sampleVoice b.memory b.stores call other
        (b.memory.fetch (base + Chip.resonanceRouting) &&& Chip.routingMask) voice := by
  simp only [SamplerSettings.sampleVoice, hchip, hother, h.written, h.stores, history,
    h.readChannel_eq]

/-- The same of the voice as a part of its chip. -/
lemma sampleChip_eq (h : Agree base voice a b) (settings : SamplerSettings) (call : UInt64)
    {chip other : TrackedChip} (hchip : chip.base = base) (hother : other.base = base)
    (history : chip.voices.get voice = other.voices.get voice) :
    let left := settings.sampleChip a.memory a.stores call chip
    let right := settings.sampleChip b.memory b.stores call other
    left.1.channels.get voice = right.1.channels.get voice ∧
      Pass.silenced left.1 voice = Pass.silenced right.1 voice ∧
      left.2.voices.get voice = right.2.voices.get voice := by
  intro left right
  have sampled := h.sampleVoice_eq settings call hchip hother history
  obtain ⟨leftChannel, leftHistory⟩ := settings.get_sampleChip a.memory a.stores call chip voice
  obtain ⟨rightChannel, rightHistory⟩ := settings.get_sampleChip b.memory b.stores call other voice
  rw [hchip] at leftChannel leftHistory
  rw [hother] at rightChannel rightHistory
  have channel : left.1.channels.get voice = right.1.channels.get voice := by
    rw [leftChannel, rightChannel, sampled]
  have voice3Off : left.1.voice3Off = right.1.voice3Off := by
    change (a.memory.fetch (chip.base + Chip.modeVolume) &&& Chip.voice3OffBit != 0) =
      (b.memory.fetch (other.base + Chip.modeVolume) &&& Chip.voice3OffBit != 0)
    rw [hchip, hother, h.voice3Off]
  refine ⟨channel, ?_, ?_⟩
  · rw [Pass.silenced, Pass.silenced, channel, voice3Off]
  · rw [leftHistory, rightHistory, sampled]

end Moment.Agree

/-! ## One transcript -/

namespace Transcript

/-- The parts of a transcript fit the chips, and its table lists no instrument twice. -/
structure Fits (bases : List UInt16) (transcript : Transcript) : Prop where
  chips : transcript.sampler.chips.map TrackedChip.base = bases
  trackers : transcript.extractor.voices.size = 3 * bases.length
  lines : transcript.timeline.voices.size = 3 * bases.length
  distinct : transcript.timeline.instruments.Distinct

variable {bases : List UInt16} {transcript : Transcript} (beat : Beat) (moment : Moment)

lemma fits_new (region : Region) (tuning multispeed : Float) (options : ExtractOptions) :
    (new bases region tuning multispeed options).Fits bases where
  chips := by
    rw [new, Sampler.new, List.map_map]
    exact List.map_id _
  trackers := by
    rw [new, Extractor.new, Array.size_replicate]
    exact Nat.mul_comm _ _
  lines := by
    rw [new, Timeline.new, Array.size_replicate]
    exact Nat.mul_comm _ _
  distinct := InstrumentTable.distinct_empty

lemma instruments_take :
    (transcript.take beat moment).timeline.instruments =
      (transcript.extraction beat moment).table := by
  rw [take, Timeline.instruments_appendFrom]

variable (transcript) in
lemma spares :
    (Pass.mk transcript.extractor transcript.timeline.instruments #[]).Spares
      (transcript.extraction beat moment).pass :=
  Extractor.process_spares _

variable (transcript) in
lemma grows : (transcript.take beat moment).timeline.instruments.Continues
    transcript.timeline.instruments := by
  rw [instruments_take]
  exact (transcript.spares beat moment).grows

lemma Fits.take (h : transcript.Fits bases) : (transcript.take beat moment).Fits bases where
  chips := by
    refine Eq.trans ?_ h.chips
    change ((transcript.sampler.chips.map _).map Prod.snd).map TrackedChip.base = _
    rw [List.map_map, List.map_map]
    rfl
  trackers := (transcript.spares beat moment).size.trans h.trackers
  lines := by
    rw [Transcript.take, Timeline.size_voices_appendFrom]
    exact h.lines
  distinct := by
    rw [instruments_take]
    exact (transcript.spares beat moment).distinct h.distinct

/-- What a call does to one voice, met with a table that lies between those before and after. -/
structure Hears (after : Transcript) (beat : Beat) (voice : ℕ) (line : VoiceLine)
    (step : VoiceStep) : Prop where
  tracker : after.extractor.voices[voice]? = some step.tracker
  line : after.timeline.voices[voice]? =
    some (line.append beat.time step.event beat.tempo.rowDuration)
  grows : after.timeline.instruments.Continues step.table

/-- **One call of one voice** in a transcript. -/
lemma Fits.hears (h : transcript.Fits bases) {index : ℕ} {chip : TrackedChip}
    (hchip : transcript.sampler.chips[index]? = some chip) (voice : Fin Chip.voiceCount)
    {tracker : VoiceTracker}
    (htracker : transcript.extractor.voices[3 * index + voice]? = some tracker) {line : VoiceLine}
    (hline : transcript.timeline.voices[3 * index + voice]? = some line) :
    let state := (transcript.sampler.settings.sampleChip moment.memory moment.stores beat.call
      chip).1
    ∃ table, table.Continues transcript.timeline.instruments ∧ table.Distinct ∧
      Hears (transcript.take beat moment) beat (3 * index + voice) line
        (VoiceStep.of transcript.extractor.options tracker table (state.channels.get voice)
          (Pass.silenced state voice)) := by
  intro state
  obtain ⟨found, -⟩ := transcript.sampler.getElem?_sample moment.memory moment.stores beat.call
    beat.time hchip
  obtain ⟨table, met⟩ :=
    Extractor.process_meets transcript.timeline.instruments found voice htracker
  refine ⟨table, met.grown, met.distinct h.distinct, met.after, ?_, ?_⟩
  · have event := met.event
    rw [← Array.getElem?_toList] at event
    have own := Timeline.voices_appendFrom
      ⟨transcript.timeline.voices, (transcript.extraction beat moment).table⟩ 0 beat.time beat.tempo
      _ event
    rw [Nat.zero_add] at own
    rw [Transcript.take]
    refine own.trans ?_
    rw [hline, Option.map_some]
  · rw [instruments_take]
    exact met.grows

/-! ## Two transcripts -/

/-- Two transcripts have the same settings, remember the same of a voice, and say the same of it. -/
structure Alike (index : ℕ) (voice : Fin Chip.voiceCount) (left right : Transcript) : Prop where
  settings : left.sampler.settings = right.sampler.settings
  options : left.extractor.options = right.extractor.options
  history : ∀ chip other, left.sampler.chips[index]? = some chip →
    right.sampler.chips[index]? = some other → chip.voices.get voice = other.voices.get voice
  tracker : ∀ a b, left.extractor.voices[3 * index + voice]? = some a →
    right.extractor.voices[3 * index + voice]? = some b →
      VoiceTracker.Alike left.timeline.instruments right.timeline.instruments a b
  line : ∀ a b, left.timeline.voices[3 * index + voice]? = some a →
    right.timeline.voices[3 * index + voice]? = some b →
      VoiceLine.Alike left.timeline.instruments right.timeline.instruments a b

variable {index : ℕ} {voice : Fin Chip.voiceCount} {left right : Transcript} {base : UInt16}
  {a b : Moment}

/-- An array with three places for each chip has one for each voice. -/
lemma exists_getElem?_voice {α : Type} {voices : Array α} (size : voices.size = 3 * bases.length)
    (hbase : bases[index]? = some base) (voice : Fin Chip.voiceCount) :
    ∃ kept, voices[3 * index + voice]? = some kept := by
  have hvoice : voice.val < 3 := voice.isLt
  obtain ⟨inside, -⟩ := List.getElem?_eq_some_iff.mp hbase
  exact ⟨_, Array.getElem?_eq_getElem (by omega)⟩

/-- **One call keeps two transcripts alike** on a voice on which its moments agree. -/
lemma Alike.take (h : Alike index voice left right) (hleft : left.Fits bases)
    (hright : right.Fits bases) (hbase : bases[index]? = some base) (agree : a.Agree base voice b) :
    Alike index voice (left.take beat a) (right.take beat b) := by
  obtain ⟨chip, hchip, chipBase⟩ := Sampler.exists_chip hleft.chips hbase
  obtain ⟨other, hother, otherBase⟩ := Sampler.exists_chip hright.chips hbase
  obtain ⟨leftTracker, hleftTracker⟩ := exists_getElem?_voice hleft.trackers hbase voice
  obtain ⟨rightTracker, hrightTracker⟩ := exists_getElem?_voice hright.trackers hbase voice
  obtain ⟨leftLine, hleftLine⟩ := exists_getElem?_voice hleft.lines hbase voice
  obtain ⟨rightLine, hrightLine⟩ := exists_getElem?_voice hright.lines hbase voice
  -- Both sample the same of the voice.
  obtain ⟨channel, silenced, history⟩ := agree.sampleChip_eq right.sampler.settings beat.call
    chipBase otherBase (h.history chip other hchip hother)
  obtain ⟨leftTable, leftGrown, leftDistinct, leftHears⟩ :=
    hleft.hears beat a hchip voice hleftTracker hleftLine
  obtain ⟨rightTable, rightGrown, rightDistinct, rightHears⟩ :=
    hright.hears beat b hother voice hrightTracker hrightLine
  rw [h.settings, h.options, channel, silenced] at leftHears
  -- So it means the same for the voice, up to the places of instruments.
  have remembered := (h.tracker _ _ hleftTracker hrightTracker).grow leftGrown rightGrown
  set state := (right.sampler.settings.sampleChip b.memory b.stores beat.call other).1
  have step := VoiceStep.of_alike remembered leftDistinct rightDistinct right.extractor.options
    (state.channels.get voice) (Pass.silenced state voice)
  generalize VoiceStep.of right.extractor.options leftTracker leftTable
    (state.channels.get voice) (Pass.silenced state voice) = leftStep at leftHears step
  generalize VoiceStep.of right.extractor.options rightTracker rightTable
    (state.channels.get voice) (Pass.silenced state voice) = rightStep at rightHears step
  have leftGrows := left.grows beat a
  have rightGrows := right.grows beat b
  refine ⟨h.settings, ?_, ?_, ?_, ?_⟩
  · exact (left.spares beat a).options.trans (h.options.trans (right.spares beat b).options.symm)
  · obtain ⟨-, leftChip⟩ := left.sampler.getElem?_sample a.memory a.stores beat.call beat.time hchip
    obtain ⟨-, rightChip⟩ :=
      right.sampler.getElem?_sample b.memory b.stores beat.call beat.time hother
    intro chip' other' hchip' hother'
    obtain rfl := Option.some.inj (leftChip.symm.trans hchip')
    obtain rfl := Option.some.inj (rightChip.symm.trans hother')
    rw [h.settings]
    exact history
  · intro leftAfter rightAfter hleftAfter hrightAfter
    obtain rfl := Option.some.inj (leftHears.tracker.symm.trans hleftAfter)
    obtain rfl := Option.some.inj (rightHears.tracker.symm.trans hrightAfter)
    exact step.tracker.grow leftHears.grows rightHears.grows
  · intro leftAfter rightAfter hleftAfter hrightAfter
    obtain rfl := Option.some.inj (leftHears.line.symm.trans hleftAfter)
    obtain rfl := Option.some.inj (rightHears.line.symm.trans hrightAfter)
    exact (h.line _ _ hleftLine hrightLine).append leftGrows rightGrows
      (step.event.grow leftHears.grows rightHears.grows) beat.time beat.tempo.rowDuration

lemma alike_new (bases : List UInt16) (region : Region) (tuning multispeed : Float)
    (options : ExtractOptions) (index : ℕ) (voice : Fin Chip.voiceCount) :
    Alike index voice (new bases region tuning multispeed options)
      (new bases region tuning multispeed options) := by
  refine ⟨rfl, rfl, fun chip other hchip hother => ?_, fun a b ha hb => ?_, fun a b ha hb => ?_⟩
  · obtain rfl := Option.some.inj (hchip.symm.trans hother)
    rfl
  · obtain rfl := Option.some.inj (ha.symm.trans hb)
    simp only [new, Extractor.new, Array.getElem?_replicate, Option.ite_none_right_eq_some,
      Option.some.injEq] at ha
    rw [← ha.2]
    exact ⟨rfl, rfl, rfl, .none⟩
  · obtain rfl := Option.some.inj (ha.symm.trans hb)
    simp only [new, Timeline.new, Array.getElem?_replicate, Option.ite_none_right_eq_some,
      Option.some.injEq] at ha
    rw [← ha.2]
    exact VoiceLine.empty_alike

variable {start : Transcript} {first second : ℕ → Moment} {calls : ℕ} (beats : ℕ → Beat)

lemma Fits.after (h : start.Fits bases) (history : ℕ → Moment) (calls : ℕ) :
    (start.after beats history calls).Fits bases := by
  induction calls with
  | zero => exact h
  | succ calls ih => exact ih.take (beats calls) (history calls)

lemma Alike.after (h : Alike index voice start start) (fits : start.Fits bases)
    (hbase : bases[index]? = some base)
    (agree : ∀ call < calls, (first call).Agree base voice (second call)) :
    Alike index voice (start.after beats first calls) (start.after beats second calls) := by
  induction calls with
  | zero => exact h
  | succ calls ih =>
    have before := ih fun call earlier => agree call (Nat.lt_succ_of_lt earlier)
    exact before.take (beats calls) (fits.after beats first calls) (fits.after beats second calls)
      hbase (agree calls (Nat.lt_succ_self calls))

end Transcript

/-! ## Every call -/

/-- **Voices do not interfere.**  Take two histories of memories and observed stores, for the same
chips, settings, times and durations.  If they agree at every call on what concerns a voice of some
chip, then the two timelines have on that voice the same number of rows, and row by row the same
time, note, gate, frequency and duration, and instruments on the same rows, whose places hold the
same instrument in the two tables. -/
theorem voices_independent (bases : List UInt16) (region : Region) (tuning multispeed : Float)
    (options : ExtractOptions) (beats : ℕ → Beat) (first second : ℕ → Moment) (calls index : ℕ)
    (base : UInt16) (hbase : bases[index]? = some base) (voice : Fin Chip.voiceCount)
    (agree : ∀ call < calls, (first call).Agree base voice (second call)) :
    let start := Transcript.new bases region tuning multispeed options
    let left := (start.after beats first calls).timeline
    let right := (start.after beats second calls).timeline
    List.Forall₂ (DeltaRow.Alike left.instruments right.instruments)
      (left.rows (3 * index + voice)).toList (right.rows (3 * index + voice)).toList := by
  intro start left right
  have fits : start.Fits bases := Transcript.fits_new region tuning multispeed options
  have alike := (Transcript.alike_new bases region tuning multispeed options index voice).after
    beats fits hbase agree
  obtain ⟨leftLine, hleft⟩ :=
    Transcript.exists_getElem?_voice (fits.after beats first calls).lines hbase voice
  obtain ⟨rightLine, hright⟩ :=
    Transcript.exists_getElem?_voice (fits.after beats second calls).lines hbase voice
  have rows := (alike.line _ _ hleft hright).rows
  rw [Timeline.rows, hleft, Timeline.rows, hright]
  exact rows

/-! ### Two histories that differ on another voice -/

namespace Moment

/-- The second voice of the first chip has its gate open. -/
def secondVoice : Moment :=
  ⟨BankedMemory.powerOn.store 0xD40B 0x41, [⟨0xD40B, 0x41⟩]⟩

/-- The same, and the first voice's gate is opened before. -/
def bothVoices : Moment :=
  ⟨(BankedMemory.powerOn.store 0xD404 0x21).store 0xD40B 0x41, [⟨0xD404, 0x21⟩, ⟨0xD40B, 0x41⟩]⟩

lemma agree_secondVoice : secondVoice.Agree 0xD400 1 bothVoices where
  registers := by
    have all : ∀ n < 7, secondVoice.memory.fetch (Chip.voiceRegister 0xD400 1 (UInt16.ofNat n)) =
        bothVoices.memory.fetch (Chip.voiceRegister 0xD400 1 (UInt16.ofNat n)) := by
      decide +kernel
    intro offset h
    have known := all offset.toNat (UInt16.lt_iff_toNat_lt.mp h)
    rwa [UInt16.ofNat_toNat] at known
  routing := by decide +kernel
  voice3Off := by decide +kernel
  written := by
    have register : Chip.voiceRegister 0xD400 (1 : Fin Chip.voiceCount) Chip.control = 0xD40B := by
      decide
    rw [register]
    simp [secondVoice, bothVoices, BankedMemory.wasWritten_store]
  stores := by decide +kernel

lemma fetch_ne : secondVoice.memory.fetch 0xD404 ≠ bothVoices.memory.fetch 0xD404 := by
  decide +kernel

/-- The score of a first call after which this is to be seen. -/
def score (moment : Moment) : Timeline :=
  ((Transcript.new [0xD400] .pal standardTuning 1.0 default).after
    (fun _ => ⟨0, 0, .fixed 1000⟩) (fun _ => moment) 1).timeline

/-- The theorem at these two: what the first voice does leaves the second alone. -/
theorem secondVoice_unaffected :
    secondVoice.Agree 0xD400 1 bothVoices ∧
      secondVoice.memory.fetch 0xD404 ≠ bothVoices.memory.fetch 0xD404 ∧
      List.Forall₂ (DeltaRow.Alike secondVoice.score.instruments bothVoices.score.instruments)
        (secondVoice.score.rows 1).toList (bothVoices.score.rows 1).toList := by
  refine ⟨agree_secondVoice, fetch_ne, ?_⟩
  exact voices_independent [0xD400] .pal standardTuning 1.0 default (fun _ => ⟨0, 0, .fixed 1000⟩)
    (fun _ => secondVoice) (fun _ => bothVoices) 1 0 0xD400 rfl 1 fun _ _ => agree_secondVoice

end Moment

end SidScore
