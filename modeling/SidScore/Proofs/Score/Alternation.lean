import SidScore.Proofs.Sample.Gate
import SidScore.Proofs.Score.Alike

/-!
# Gate events alternate

An extractor reports of a voice when its gate opens and when it closes.  Whether the gate was last
reported open is the tracker's `active`, which no reader of the events sees.  What a reader sees is
the latest gate event, `Hearing.lastGate`, and the two never part.  So the events can be read
without the tracker: a gate is closed only after it was opened, and at the first call at which the
voice no longer sounds.

Besides its event a starting note leaves two traces, the mark on its channel and an entry in the
list of frequencies.  Both are made in the pass over a row, voice after voice: `Pass.Marks`.
-/

namespace SidScore

/-! ## What a row shows of a voice -/

/-- A row as the sampler makes it. -/
def Row.Sampled (row : Row) : Prop :=
  ∃ (sampler : Sampler) (memory : BankedMemory) (stores : List Store) (call time : UInt64),
    row = (sampler.sample memory stores call time).1

/-- No voice is marked yet. -/
def Row.Unmarked (row : Row) : Prop :=
  ∀ chip ∈ row.chips, ∀ voice, (chip.channels.get voice).newNote = false

lemma Row.Sampled.unmarked {row : Row} (h : row.Sampled) : row.Unmarked := by
  obtain ⟨sampler, memory, stores, call, time, rfl⟩ := h
  exact fun chip hchip => Sampler.sample_unmarked sampler memory stores call time hchip

namespace ChipState

variable (chip : ChipState) (voice : Fin Chip.voiceCount)

/-- The voice's oscillator runs with some waveform, and it is not the third voice, disconnected and
past the filter. -/
def Audible : Prop :=
  (chip.channels.get voice).test = false ∧ (chip.channels.get voice).waveform ≠ 0 ∧
    ¬ (voice.val = 2 ∧ chip.voice3Off = true ∧ (chip.channels.get voice).filtered = false)

def Sounds : Prop :=
  (chip.channels.get voice).gate = .on ∧ chip.Audible voice

/-- The voice's release is heard. -/
def Releases : Prop :=
  (chip.channels.get voice).gate = .off ∧ (chip.channels.get voice).inRelease = true ∧
    chip.Audible voice

lemma audible_iff :
    chip.Audible voice ↔ (chip.channels.get voice).audible (Pass.silenced chip voice) = true := by
  unfold Audible Channel.audible Pass.silenced
  generalize chip.channels.get voice = channel
  have place : (voice = 2) = (voice.val = 2) := propext Fin.ext_iff
  simp only [place]
  by_cases third : voice.val = 2
  · cases chip.voice3Off <;> cases channel.filtered <;> simp [third]
  · simp [third]

lemma sounds_iff :
    chip.Sounds voice ↔ (chip.channels.get voice).sounding (Pass.silenced chip voice) = true := by
  rw [Sounds, audible_iff, Channel.sounding, Bool.and_eq_true, decide_eq_true_iff]

lemma releases_iff :
    chip.Releases voice ↔
      (chip.channels.get voice).releasing (Pass.silenced chip voice) = true := by
  rw [Releases, audible_iff, Channel.releasing, Bool.and_eq_true, Bool.and_eq_true,
    decide_eq_true_iff, and_assoc]

end ChipState

/-! ## One call of one voice -/

namespace VoiceStep

/-- What the gate event of a call tells of the voice, given whether its gate counted as open. -/
structure Gated (step : VoiceStep) (active : Bool) (channel : Channel) (sounding : Bool) :
    Prop where
  opens : step.event.gate = some .on → sounding = true ∧ step.event.note.isSome = true ∧
    step.event.frequency = some channel.frequency
  closes : step.event.gate = some .off → sounding = false ∧ active = true
  stays : step.event.gate = none → active = true → sounding = true

variable {tracker : VoiceTracker} {table : InstrumentTable} {channel : Channel}

lemma start_gated {note : Option UInt8} (known : note.isSome = true) (sounding : Bool) :
    (start tracker table channel note sounding).Gated tracker.active channel sounding := by
  unfold start
  cases sounding with
  | true => exact ⟨fun _ => ⟨rfl, known, rfl⟩, nofun, nofun⟩
  | false =>
    cases active : tracker.active with
    | true => exact ⟨nofun, fun _ => ⟨rfl, rfl⟩, nofun⟩
    | false => exact ⟨nofun, nofun, nofun⟩

lemma carryOn_gated (sounding everyCall : Bool) :
    (carryOn tracker table channel sounding everyCall).Gated tracker.active channel sounding := by
  unfold carryOn
  by_cases closes : (tracker.active && !sounding) = true
  · rw [if_pos closes]
    rw [Bool.and_eq_true, Bool.not_eq_true'] at closes
    exact ⟨nofun, fun _ => ⟨closes.2, closes.1⟩, nofun⟩
  · have sounds : tracker.active = true → sounding = true := by
      simpa using closes
    rw [if_neg closes]
    dsimp only
    split
    · exact ⟨nofun, nofun, fun _ => sounds⟩
    · exact ⟨nofun, nofun, fun _ => sounds⟩

lemma of_gated (options : ExtractOptions) (tracker : VoiceTracker) (table : InstrumentTable)
    (channel : Channel) (silenced : Bool) :
    (VoiceStep.of options tracker table channel silenced).Gated tracker.active channel
      (channel.sounding silenced) := by
  rw [of_eq_ite]
  split
  next triggered =>
    rw [triggers, Bool.and_eq_true] at triggered
    exact start_gated triggered.1 _
  next => exact carryOn_gated _ _

/-- A voice that neither sounds nor releases has no event, unless its gate is to be closed. -/
lemma of_quiet {options : ExtractOptions} {silenced : Bool} (inactive : tracker.active = false)
    (quiet : channel.sounding silenced = false)
    (ended : options.notesInRelease = true → channel.releasing silenced = false) :
    (VoiceStep.of options tracker table channel silenced).event = .unchanged := by
  have untriggered : triggers options tracker channel silenced = false := by
    rw [triggers, quiet]
    cases release : options.notesInRelease with
    | false => simp
    | true => simp [ended release]
  rw [of_eq_ite, untriggered]
  simp [carryOn, inactive]

end VoiceStep

/-! ## Marks -/

namespace Pass

/-- The traces of the notes that start on the way from `start` to `final`, whose channels are
`channels` afterwards. -/
structure Marks (start final : Pass) (channels : List Channel) : Prop where
  /-- The channels are marked where the events have a note. -/
  notes : final.events.toList.map (·.note.isSome) =
    start.events.toList.map (·.note.isSome) ++ channels.map (·.newNote)
  /-- The frequencies of the marked channels are added to the list. -/
  frequencies : final.extractor.startFrequencies.toList =
    start.extractor.startFrequencies.toList ++ (channels.filter (·.newNote)).map (·.frequency)

lemma Marks.trans {first second third : Pass} {early late : List Channel}
    (h : first.Marks second early) (h' : second.Marks third late) :
    first.Marks third (early ++ late) where
  notes := by
    rw [h'.notes, h.notes, List.map_append, List.append_assoc]
  frequencies := by
    rw [h'.frequencies, h.frequencies, List.filter_append, List.map_append, List.append_assoc]

lemma channel_marks (pass : Pass) (silenced : Bool) {channel : Channel}
    (unmarked : channel.newNote = false) :
    pass.Marks (pass.channel silenced channel).1 [(pass.channel silenced channel).2] := by
  obtain ⟨⟨options, voices, startFrequencies⟩, table, events⟩ := pass
  unfold Pass.channel
  dsimp only
  split
  next room =>
    set step := VoiceStep.of options voices[events.size] table channel silenced with hstep
    by_cases starts : step.starts = true
    · rw [if_pos starts]
      refine ⟨?_, ?_⟩
      · have note : step.event.note.isSome = true := starts
        simp [note]
      · simp
    · rw [if_neg starts]
      refine ⟨?_, ?_⟩
      · have note : step.event.note.isSome = false := Bool.eq_false_iff.mpr starts
        simp [note, unmarked]
      · simp [unmarked]
  next => exact ⟨by simp [VoiceEvent.unchanged, unmarked], by simp [unmarked]⟩

lemma chip_marks (pass : Pass) {chip : ChipState}
    (unmarked : ∀ voice, (chip.channels.get voice).newNote = false) :
    pass.Marks (pass.chip chip).1 (pass.chip chip).2.channels.toList := by
  unfold Pass.chip
  dsimp only
  set afterFirst := pass.channel (silenced chip 0) (chip.channels.get 0)
  set afterSecond := afterFirst.1.channel (silenced chip 1) (chip.channels.get 1)
  have first := channel_marks pass (silenced chip 0) (unmarked 0)
  have second := channel_marks afterFirst.1 (silenced chip 1) (unmarked 1)
  have third := channel_marks afterSecond.1 (silenced chip 2) (unmarked 2)
  exact (first.trans second).trans third

lemma chips_marks (pass : Pass) (chips : List ChipState)
    (unmarked : ∀ chip ∈ chips, ∀ voice, (chip.channels.get voice).newNote = false) :
    pass.Marks (pass.chips chips).1 (channelsOf (pass.chips chips).2) := by
  induction chips generalizing pass with
  | nil => exact ⟨(List.append_nil _).symm, (List.append_nil _).symm⟩
  | cons chip rest ih =>
    have one := chip_marks pass (unmarked chip List.mem_cons_self)
    have others := ih (pass.chip chip).1 fun other hother =>
      unmarked other (List.mem_cons_of_mem chip hother)
    rw [Pass.chips, channelsOf, List.flatMap_cons]
    exact one.trans others

end Pass

/-! ## Rows in sequence -/

/-- An extractor, the rows that it is given one after the other, and the table of instruments that
it is given with each. -/
structure Hearing where
  start : Extractor
  rows : ℕ → Row
  tables : ℕ → InstrumentTable

namespace Hearing

variable (hearing : Hearing) (index : ℕ) (voice : Fin Chip.voiceCount) (number call : ℕ)

/-- The extractor before a call. -/
def extractor : ℕ → Extractor
  | 0 => hearing.start
  | call + 1 => ((extractor call).process (hearing.rows call) (hearing.tables call)).extractor

def extraction : Extraction :=
  (hearing.extractor call).process (hearing.rows call) (hearing.tables call)

/-- The event of a voice, by its number, at a call. -/
def event : VoiceEvent :=
  (hearing.extraction call).events[number]?.getD .unchanged

/-- The latest gate event of a voice before a call. -/
def lastGate : ℕ → Option Gate
  | 0 => none
  | call + 1 => (hearing.event number call).gate.or (lastGate call)

/-- A voice of a chip sounds at a call. -/
def Sounds : Prop :=
  ∃ chip, (hearing.rows call).chips[index]? = some chip ∧ chip.Sounds voice

/-- The release of a voice of a chip is heard at a call. -/
def Releases : Prop :=
  ∃ chip, (hearing.rows call).chips[index]? = some chip ∧ chip.Releases voice

/-- The gate of a voice counts as open before a call. -/
def active : Bool :=
  (hearing.extractor call).voices[number]?.any (·.active)

/-- What a call means for a voice of a chip. -/
structure Turn (chip : ChipState) : Prop where
  event : (hearing.extraction call).events[3 * index + voice.val]? =
    some (hearing.event (3 * index + voice) call)
  active : hearing.active (3 * index + voice) (call + 1) =
    match (hearing.event (3 * index + voice) call).gate with
    | some .on => true
    | some .off => false
    | none => hearing.active (3 * index + voice) call
  opens : (hearing.event (3 * index + voice) call).gate = some .on → chip.Sounds voice ∧
    (hearing.event (3 * index + voice) call).note.isSome = true ∧
    (hearing.event (3 * index + voice) call).frequency = some (chip.channels.get voice).frequency
  closes : (hearing.event (3 * index + voice) call).gate = some .off →
    ¬ chip.Sounds voice ∧ hearing.active (3 * index + voice) call = true
  stays : (hearing.event (3 * index + voice) call).gate = none →
    hearing.active (3 * index + voice) call = true → chip.Sounds voice
  quiet : hearing.active (3 * index + voice) call = false → ¬ chip.Sounds voice →
    (hearing.start.options.notesInRelease = true → ¬ chip.Releases voice) →
    hearing.event (3 * index + voice) call = .unchanged

lemma spares : (Pass.mk (hearing.extractor call) (hearing.tables call) #[]).Spares
    (hearing.extraction call).pass :=
  Extractor.process_spares _

variable {hearing index voice number call}

lemma options_extractor : (hearing.extractor call).options = hearing.start.options := by
  induction call with
  | zero => rfl
  | succ call ih => exact (hearing.spares call).options.trans ih

/-- **One call.**  A voice with a tracker meets it; a voice without one has no event. -/
lemma turn {chip : ChipState} (found : (hearing.rows call).chips[index]? = some chip) :
    hearing.Turn index voice call chip := by
  set number := 3 * index + voice.val with hnumber
  cases known : (hearing.extractor call).voices[number]? with
  | none =>
    have missed : (hearing.extraction call).events[number]? = some .unchanged :=
      Extractor.process_misses (hearing.tables call) found voice known
    have event : hearing.event number call = .unchanged := by
      rw [Hearing.event, missed, Option.getD_some]
    have unknown : (hearing.extractor (call + 1)).voices[number]? = none := by
      have size : (hearing.extractor (call + 1)).voices.size =
        (hearing.extractor call).voices.size := (hearing.spares call).size
      rw [Array.getElem?_eq_none_iff, size]
      exact Array.getElem?_eq_none_iff.mp known
    have inactive : hearing.active number call = false := by
      rw [active, known]
      rfl
    refine ⟨?_, ?_, ?_, ?_, ?_, fun _ _ _ => event⟩
    · rw [← hnumber, event, missed]
    · rw [← hnumber, event, inactive, active, unknown]
      rfl
    · rw [← hnumber, event]
      nofun
    · rw [← hnumber, event]
      nofun
    · rw [← hnumber, inactive]
      nofun
  | some tracker =>
    obtain ⟨table, meets⟩ := Extractor.process_meets (hearing.tables call) found voice known
    set step := VoiceStep.of (hearing.extractor call).options tracker table
      (chip.channels.get voice) (Pass.silenced chip voice) with hstep
    have gated : step.Gated tracker.active _ _ := VoiceStep.of_gated _ _ _ _ _
    have explains : step.Explains tracker _ := VoiceStep.of_explains _ _ _ _ _
    have happened : (hearing.extraction call).events[number]? = some step.event := meets.event
    have event : hearing.event number call = step.event := by
      rw [Hearing.event, happened, Option.getD_some]
    have before : hearing.active number call = tracker.active := by
      rw [active, known]
      rfl
    have after : hearing.active number (call + 1) = step.tracker.active := by
      have tracked : (hearing.extractor (call + 1)).voices[number]? = some step.tracker :=
        meets.after
      rw [active, tracked]
      rfl
    refine ⟨?_, ?_, ?_, ?_, ?_, ?_⟩
    · rw [← hnumber, event, happened]
    · rw [← hnumber, event, before, after]
      exact explains.active
    · rw [← hnumber, event, ChipState.sounds_iff]
      exact gated.opens
    · rw [← hnumber, event, before, ChipState.sounds_iff, Bool.not_eq_true]
      exact gated.closes
    · rw [← hnumber, event, before, ChipState.sounds_iff]
      exact gated.stays
    · rw [← hnumber, event, before, ChipState.sounds_iff, ChipState.releases_iff,
        Bool.not_eq_true, Bool.not_eq_true, ← hearing.options_extractor]
      exact VoiceStep.of_quiet

/-! ### From call to call -/

/-- The chip is in every row. -/
def Shows (hearing : Hearing) (index : ℕ) : Prop :=
  ∀ call, index < (hearing.rows call).chips.length

lemma Shows.exists_turn (shows : hearing.Shows index) (voice : Fin Chip.voiceCount) (call : ℕ) :
    ∃ chip, (hearing.rows call).chips[index]? = some chip ∧ hearing.Turn index voice call chip := by
  have found := List.getElem?_eq_getElem (shows call)
  exact ⟨_, found, turn found⟩

/-- What a gate event opens stays open until one closes it. -/
lemma Shows.active_of_opened (shows : hearing.Shows index) {opened : ℕ}
    (opens : (hearing.event (3 * index + voice) opened).gate = some .on)
    (later : opened < call) (unclosed : ∀ k, opened < k → k < call →
      (hearing.event (3 * index + voice) k).gate ≠ some .off) :
    hearing.active (3 * index + voice) call = true := by
  induction call, later using Nat.le_induction with
  | base =>
    obtain ⟨chip, -, turn⟩ := shows.exists_turn voice opened
    rw [turn.active, opens]
  | succ call later ih =>
    obtain ⟨chip, -, turn⟩ := shows.exists_turn voice call
    have still := ih fun k after before => unclosed k after (Nat.lt_succ_of_lt before)
    rw [turn.active]
    cases gate : (hearing.event (3 * index + voice) call).gate with
    | none => exact still
    | some change =>
      cases change with
      | on => rfl
      | off => exact absurd gate (unclosed call later (Nat.lt_succ_self call))

/-- The gate counts as open exactly if the latest gate event opened it. -/
lemma Shows.active_iff (shows : hearing.Shows index)
    (fresh : hearing.active (3 * index + voice) 0 = false) (call : ℕ) :
    hearing.active (3 * index + voice) call = true ↔
      hearing.lastGate (3 * index + voice) call = some .on := by
  induction call with
  | zero =>
    rw [fresh, lastGate]
    exact ⟨nofun, nofun⟩
  | succ call ih =>
    obtain ⟨chip, -, turn⟩ := shows.exists_turn voice call
    rw [turn.active, lastGate]
    cases (hearing.event (3 * index + voice) call).gate with
    | none => exact ih
    | some change => cases change <;> simp

/-- A voice that is quiet from the start has no event. -/
lemma Shows.quiet (shows : hearing.Shows index)
    (fresh : hearing.active (3 * index + voice) 0 = false)
    (silent : ∀ k ≤ call, ¬ hearing.Sounds index voice k)
    (ended : hearing.start.options.notesInRelease = true →
      ∀ k ≤ call, ¬ hearing.Releases index voice k) :
    hearing.event (3 * index + voice) call = .unchanged := by
  have event_of_inactive {k : ℕ} (hk : k ≤ call)
      (inactive : hearing.active (3 * index + voice) k = false) :
      hearing.event (3 * index + voice) k = .unchanged := by
    obtain ⟨chip, found, turn⟩ := shows.exists_turn voice k
    exact turn.quiet inactive (fun sounds => silent k hk ⟨chip, found, sounds⟩)
      fun release releases => ended release k hk ⟨chip, found, releases⟩
  have inactive : ∀ k ≤ call, hearing.active (3 * index + voice) k = false := by
    intro k
    induction k with
    | zero => exact fun _ => fresh
    | succ k ih =>
      intro hk
      have before := ih (Nat.le_of_succ_le hk)
      obtain ⟨chip, -, turn⟩ := shows.exists_turn voice k
      rw [turn.active, event_of_inactive (Nat.le_of_succ_le hk) before]
      exact before
  exact event_of_inactive (Nat.le_refl _) (inactive call (Nat.le_refl _))

/-! ### Marks -/

lemma marks (unmarked : (hearing.rows call).Unmarked) :
    (Pass.mk (hearing.extractor call) (hearing.tables call) #[]).Marks
      (hearing.extraction call).pass (channelsOf (hearing.extraction call).row.chips) :=
  Pass.chips_marks _ _ unmarked

/-- A voice is marked where its event has a note. -/
lemma exists_channel (unmarked : (hearing.rows call).Unmarked)
    (happened : (hearing.extraction call).events[number]? = some (hearing.event number call)) :
    ∃ channel, (hearing.extraction call).row.channel? number = some channel ∧
      (hearing.event number call).note.isSome = channel.newNote := by
  have notes := congrArg (·[number]?) (marks unmarked).notes
  have none_before : (Pass.mk (hearing.extractor call) (hearing.tables call) #[]).events.toList.map
    (·.note.isSome) = [] := rfl
  simp only [none_before, List.nil_append, List.getElem?_map, Array.getElem?_toList] at notes
  have events : (hearing.extraction call).pass.events[number]? =
    some (hearing.event number call) := happened
  rw [events, Option.map_some, eq_comm, Option.map_eq_some_iff] at notes
  obtain ⟨channel, found, same⟩ := notes
  exact ⟨channel, (Row.channel?_eq _ _).trans found, same.symm⟩

end Hearing

/-- The frequencies of the marked voices of a row, in order. -/
def Row.markedFrequencies (row : Row) : List UInt16 :=
  ((channelsOf row.chips).filter (·.newNote)).map (·.frequency)

namespace Hearing

variable {hearing : Hearing} {call : ℕ}

lemma startFrequencies_eq (unmarked : ∀ call, (hearing.rows call).Unmarked)
    (fresh : hearing.start.startFrequencies = #[]) (call : ℕ) :
    (hearing.extractor call).startFrequencies.toList =
      (List.range call).flatMap fun k => (hearing.extraction k).row.markedFrequencies := by
  induction call with
  | zero =>
    rw [extractor, fresh]
    rfl
  | succ call ih =>
    have added := (marks (unmarked call)).frequencies
    rw [List.range_succ, List.flatMap_append, ← ih, List.flatMap_singleton]
    exact added

/-! ### The record of a voice -/

/-- The gate events of a voice alternate, and are timed by its sound. -/
structure Alternates (hearing : Hearing) (index : ℕ) (voice : Fin Chip.voiceCount) : Prop where
  /-- At each call there is one event for the voice. -/
  events : ∀ call, (hearing.extraction call).events[3 * index + voice.val]? =
    some (hearing.event (3 * index + voice) call)
  /-- A gate is closed only where it was open, at a call at which the voice does not sound. -/
  closes : ∀ call, (hearing.event (3 * index + voice) call).gate = some .off →
    hearing.lastGate (3 * index + voice) call = some .on ∧ ¬ hearing.Sounds index voice call
  /-- A gate is opened only where the voice sounds, with a note and the voice's frequency. -/
  opens : ∀ call, (hearing.event (3 * index + voice) call).gate = some .on →
    ∃ chip, (hearing.rows call).chips[index]? = some chip ∧ chip.Sounds voice ∧
      (hearing.event (3 * index + voice) call).note.isSome = true ∧
      (hearing.event (3 * index + voice) call).frequency =
        some (chip.channels.get voice).frequency
  /-- While a gate that was opened is not closed, the voice sounds. -/
  holds : ∀ opened call, opened ≤ call →
    (hearing.event (3 * index + voice) opened).gate = some .on →
    (∀ k, opened < k → k ≤ call → (hearing.event (3 * index + voice) k).gate ≠ some .off) →
    hearing.Sounds index voice call
  /-- It is closed at the first call at which the voice does not sound, and not before. -/
  ends : ∀ opened call, opened < call →
    (hearing.event (3 * index + voice) opened).gate = some .on →
    (∀ k, opened < k → k < call → hearing.Sounds index voice k) →
    ¬ hearing.Sounds index voice call →
    (hearing.event (3 * index + voice) call).gate = some .off ∧
      ∀ k, opened < k → k < call → (hearing.event (3 * index + voice) k).gate ≠ some .off
  /-- Notes are marked in the row. -/
  marks : ∀ call, ∃ channel,
    (hearing.extraction call).row.channel? (3 * index + voice) = some channel ∧
      ((hearing.event (3 * index + voice) call).note.isSome = true ↔ channel.newNote = true)
  /-- A voice that has neither sounded nor, where that counts, been released has no event. -/
  silent : ∀ call, (∀ k ≤ call, ¬ hearing.Sounds index voice k) →
    (hearing.start.options.notesInRelease = true →
      ∀ k ≤ call, ¬ hearing.Releases index voice k) →
    hearing.event (3 * index + voice) call = .unchanged

lemma Shows.alternates {index : ℕ} {voice : Fin Chip.voiceCount} (shows : hearing.Shows index)
    (unmarked : ∀ call, (hearing.rows call).Unmarked)
    (fresh : hearing.active (3 * index + voice) 0 = false) : hearing.Alternates index voice where
  events call := by
    obtain ⟨chip, -, turn⟩ := shows.exists_turn voice call
    exact turn.event
  closes call closes := by
    obtain ⟨chip, found, turn⟩ := shows.exists_turn voice call
    obtain ⟨mute, open_before⟩ := turn.closes closes
    refine ⟨(shows.active_iff fresh call).mp open_before, ?_⟩
    rintro ⟨other, found', sounds⟩
    obtain rfl := Option.some.inj (found.symm.trans found')
    exact mute sounds
  opens call opens := by
    obtain ⟨chip, found, turn⟩ := shows.exists_turn voice call
    exact ⟨chip, found, turn.opens opens⟩
  holds opened call later opens unclosed := by
    obtain ⟨chip, found, turn⟩ := shows.exists_turn voice call
    refine ⟨chip, found, ?_⟩
    rcases Nat.eq_or_lt_of_le later with rfl | later
    · exact (turn.opens opens).1
    · have open_before := shows.active_of_opened opens later fun k after before =>
        unclosed k after (Nat.le_of_lt before)
      cases gate : (hearing.event (3 * index + voice) call).gate with
      | none => exact turn.stays gate open_before
      | some change =>
        cases change with
        | on => exact (turn.opens gate).1
        | off => exact absurd gate (unclosed call later (Nat.le_refl _))
  ends opened call later opens sounding mute := by
    have unclosed : ∀ k, opened < k → k < call →
        (hearing.event (3 * index + voice) k).gate ≠ some .off := by
      intro k after before closes
      obtain ⟨chip, found, turn⟩ := shows.exists_turn voice k
      obtain ⟨other, found', sounds⟩ := sounding k after before
      obtain rfl := Option.some.inj (found.symm.trans found')
      exact (turn.closes closes).1 sounds
    have open_before := shows.active_of_opened opens later unclosed
    obtain ⟨chip, found, turn⟩ := shows.exists_turn voice call
    have mute : ¬ chip.Sounds voice := fun sounds => mute ⟨chip, found, sounds⟩
    refine ⟨?_, unclosed⟩
    cases gate : (hearing.event (3 * index + voice) call).gate with
    | none => exact absurd (turn.stays gate open_before) mute
    | some change =>
      cases change with
      | on => exact absurd (turn.opens gate).1 mute
      | off => rfl
  marks call := by
    obtain ⟨chip, -, turn⟩ := shows.exists_turn voice call
    obtain ⟨channel, found, same⟩ := exists_channel (unmarked call) turn.event
    exact ⟨channel, found, by rw [same]⟩
  silent call silent ended := shows.quiet fresh silent ended

end Hearing

/-- A new extractor has reported no gate open. -/
lemma Extractor.active_new (options : ExtractOptions) (voices number : ℕ) :
    (Extractor.new voices options).voices[number]?.any (·.active) = false := by
  rw [Extractor.new, Array.getElem?_replicate]
  split
  · rfl
  · rfl

/-- **Gate events alternate**, for every voice of sampled rows that a new extractor is given, and
the list of frequencies has those of the marked voices of all rows so far. -/
theorem gateEvents_alternate (options : ExtractOptions) (voices : ℕ) (rows : ℕ → Row)
    (tables : ℕ → InstrumentTable) (sampled : ∀ call, (rows call).Sampled) :
    let hearing : Hearing := ⟨.new voices options, rows, tables⟩
    (∀ index voice, hearing.Shows index → hearing.Alternates index voice) ∧
      ∀ call, (hearing.extractor call).startFrequencies.toList =
        (List.range call).flatMap fun k => (hearing.extraction k).row.markedFrequencies := by
  intro hearing
  have unmarked (call : ℕ) : (hearing.rows call).Unmarked := (sampled call).unmarked
  constructor
  · intro index voice shows
    exact shows.alternates unmarked (Extractor.active_new options voices _)
  · exact Hearing.startFrequencies_eq unmarked rfl

/-- The store that opens the first voice's gate and holds its oscillator. -/
def heldStore : Store :=
  ⟨0xD404, 0x49⟩

def heldMemory : BankedMemory :=
  BankedMemory.powerOn.store heldStore.address heldStore.value

/-- The chip, of which nothing is remembered. -/
def heldChip : TrackedChip :=
  ⟨0xD400, .replicate Chip.voiceCount .initial⟩

/-- A row for each call while nothing changes. -/
def heldRow (call : ℕ) : Row :=
  ((Sampler.new [0xD400] .pal standardTuning 1.0).sample heldMemory [heldStore]
    (UInt64.ofNat call) 0).1

namespace heldRow

lemma register_eq :
    Chip.voiceRegister heldChip.base (0 : Fin Chip.voiceCount) Chip.control = 0xD404 := by
  decide

lemma control_eq : heldMemory.fetch 0xD404 = 0x49 := by
  decide +kernel

lemma test_eq (settings : SamplerSettings) (call : UInt64) (routing : UInt8) :
    (settings.sampleVoice heldMemory [heldStore] call heldChip routing 0).1.test = true := by
  rw [SamplerSettings.test_sampleVoice, register_eq, control_eq]
  decide

lemma gate_eq (settings : SamplerSettings) (call : UInt64) (routing : UInt8) :
    (settings.sampleVoice heldMemory [heldStore] call heldChip routing 0).1.gate = .on := by
  have touched : heldMemory.Touched [heldStore]
      (Chip.voiceRegister heldChip.base (0 : Fin Chip.voiceCount) Chip.control) := by
    rw [register_eq]
    exact .inr ⟨heldStore, List.mem_singleton_self _, by decide +kernel⟩
  rw [(settings.gate_sampleVoice_of_touched _ _ _ _ _ _ (.inl touched)).1, register_eq, control_eq]
  decide

lemma exists_chip (call : ℕ) : ∃ chip, (heldRow call).chips[0]? = some chip ∧
    (chip.channels.get 0).test = true ∧ (chip.channels.get 0).gate = .on := by
  have tracked : (Sampler.new [0xD400] .pal standardTuning 1.0).chips[0]? = some heldChip := rfl
  obtain ⟨found, -⟩ :=
    Sampler.getElem?_sample _ heldMemory [heldStore] (UInt64.ofNat call) 0 tracked
  refine ⟨_, found, ?_⟩
  rw [(SamplerSettings.get_sampleChip _ _ _ _ heldChip 0).1]
  exact ⟨test_eq _ _ _, gate_eq _ _ _⟩

lemma sampled (call : ℕ) : (heldRow call).Sampled :=
  ⟨_, _, _, _, _, rfl⟩

/-- The theorem there: the voice never sounds and is never released, so nothing is reported. -/
theorem unreported :
    let hearing : Hearing := ⟨.new 3 ⟨0.0, true, true⟩, heldRow, fun _ => .empty⟩
    (∀ call, (heldRow call).Sampled) ∧ ∀ call, hearing.event 0 call = .unchanged := by
  intro hearing
  obtain ⟨voices, -⟩ := gateEvents_alternate ⟨0.0, true, true⟩ 3 heldRow (fun _ => .empty) sampled
  have shows : hearing.Shows 0 := by
    intro call
    obtain ⟨chip, found, -⟩ := exists_chip call
    exact (List.getElem?_eq_some_iff.mp found).1
  refine ⟨sampled, fun call => (voices 0 0 shows).silent call (fun k _ => ?_) fun _ k _ => ?_⟩
  · rintro ⟨chip, found, -, running, -⟩
    obtain ⟨other, found', held, -⟩ := exists_chip k
    obtain rfl := Option.some.inj (found.symm.trans found')
    rw [held] at running
    cases running
  · rintro ⟨chip, found, closed, -⟩
    obtain ⟨other, found', -, opened⟩ := exists_chip k
    obtain rfl := Option.some.inj (found.symm.trans found')
    rw [opened] at closed
    cases closed

end heldRow

end SidScore
