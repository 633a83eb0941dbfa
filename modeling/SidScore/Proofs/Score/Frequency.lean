import SidScore.Proofs.Score.Alternation

/-!
# Where the frequency is reported

An extractor can be asked for the frequency at every call.  What it gives is less: an event carries
the frequency where a note starts and where the gate counts as open and the voice sounds, and
nowhere else.  Both conditions are the tracker's.  A reader of the events knows them as well, from
the latest gate event and the latest note, so `Hearing.AtNote` says in his terms at which calls the
frequency is there.

It is missing while a voice is silent, at the call at which its gate closes, and in a release
whose pitch is no new note.
-/

namespace SidScore

/-! ## One call of one voice -/

/-- A voice that sounds is not released. -/
lemma Channel.releasing_of_sounding {channel : Channel} {silenced : Bool}
    (sounds : channel.sounding silenced = true) : channel.releasing silenced = false := by
  rw [sounding, Bool.and_eq_true, decide_eq_true_iff] at sounds
  simp [releasing, sounds.1]

namespace VoiceStep

variable {options : ExtractOptions} {tracker : VoiceTracker} {table : InstrumentTable}
  {channel : Channel} {silenced : Bool}

/-- Without a starting note, the frequency is reported of a gate that stays open. -/
lemma frequency_carryOn (sounding : Bool) :
    (carryOn tracker table channel sounding true).event.frequency =
      if tracker.active && sounding then some channel.frequency else none := by
  unfold carryOn
  cases tracker.active with
  | false => simp [VoiceEvent.unchanged]
  | true => cases sounding <;> simp [VoiceEvent.unchanged]

lemma frequency_of (everyCall : options.frequencyEveryCall = true) :
    (VoiceStep.of options tracker table channel silenced).event.frequency =
      if triggers options tracker channel silenced ||
          (tracker.active && channel.sounding silenced) then some channel.frequency
      else none := by
  rw [of_eq_ite, everyCall]
  cases triggers options tracker channel silenced with
  | true => rfl
  | false => exact frequency_carryOn _

/-- An event has a note where one starts. -/
lemma isSome_note_of :
    (VoiceStep.of options tracker table channel silenced).event.note.isSome =
      triggers options tracker channel silenced := by
  rw [of_eq_ite]
  split
  next triggered =>
    rw [triggered]
    rw [triggers, Bool.and_eq_true] at triggered
    exact triggered.1
  next untriggered =>
    rw [Bool.eq_false_iff.mpr untriggered, carryOn]
    split_ifs <;> rfl

/-- The tracker has the note that was reported last. -/
lemma note_of :
    (VoiceStep.of options tracker table channel silenced).tracker.note =
      (VoiceStep.of options tracker table channel silenced).event.note.or tracker.note := by
  rw [of_eq_ite]
  split
  next triggered =>
    rw [triggers, Bool.and_eq_true] at triggered
    exact (Option.or_of_isSome triggered.1).symm
  next =>
    unfold carryOn
    split_ifs <;> rfl

/-- What makes a sounding voice's frequency known is a note, or a gate that counts as open. -/
lemma triggers_or_active (sounds : channel.sounding silenced = true) :
    (triggers options tracker channel silenced || (tracker.active && channel.sounding silenced)) =
      (channel.note.isSome || tracker.active) := by
  rw [triggers, sounds, Channel.steadyNote]
  cases tracker.active <;> simp

/-- Of a voice that does not sound, it is a note in its release. -/
lemma triggers_of_mute (mute : channel.sounding silenced = false) :
    (triggers options tracker channel silenced || (tracker.active && channel.sounding silenced)) =
        true ↔
      options.notesInRelease = true ∧ channel.releasing silenced = true ∧
        ∃ note, channel.steadyNote tracker.note options.vibratoMargin = some note ∧
          some note ≠ tracker.note := by
  rw [triggers, mute]
  cases channel.steadyNote tracker.note options.vibratoMargin with
  | none => simp
  | some note => simp [and_assoc]

end VoiceStep

/-! ## Rows without the voice -/

lemma Pass.length_inputsOf (chips : List ChipState) :
    (Pass.inputsOf chips).length = 3 * chips.length := by
  induction chips with
  | nil => rfl
  | cons chip rest ih =>
    have own : ((List.finRange Chip.voiceCount).map fun voice =>
        (silenced chip voice, chip.channels.get voice)).length = 3 := rfl
    have others : (rest.flatMap fun chip => (List.finRange Chip.voiceCount).map fun voice =>
        (silenced chip voice, chip.channels.get voice)).length = 3 * rest.length := ih
    rw [inputsOf, List.flatMap_cons, List.length_append, own, others, List.length_cons]
    omega

/-- A voice that a row does not have keeps its tracker, and has no event. -/
lemma Extractor.process_without {extractor : Extractor} {row : Row} (table : InstrumentTable)
    {index : ℕ} (absent : row.chips[index]? = none) (voice : Fin Chip.voiceCount) :
    (extractor.process row table).extractor.voices[3 * index + voice.val]? =
        extractor.voices[3 * index + voice.val]? ∧
      (extractor.process row table).events[3 * index + voice.val]? = none := by
  have count : (extractor.process row table).pass.events.size = 3 * row.chips.length := by
    rw [pass_process, (Pass.voices_spares _ _).1, Pass.length_inputsOf]
    exact Nat.zero_add _
  have beyond : (extractor.process row table).pass.events.size ≤ 3 * index + voice.val := by
    rw [count]
    have := List.getElem?_eq_none_iff.mp absent
    omega
  exact ⟨(process_spares table).toCome _ beyond, Array.getElem?_eq_none_iff.mpr beyond⟩

/-! ## Rows in sequence -/

namespace Hearing

variable (hearing : Hearing) (index : ℕ) (voice : Fin Chip.voiceCount) (number call : ℕ)

/-- The latest note of a voice before a call. -/
def lastNote : ℕ → Option UInt8
  | 0 => none
  | call + 1 => (hearing.event number call).note.or (lastNote call)

/-- A voice of a chip is at a note at a call.  It sounds, and its pitch is a note or its gate was
last reported open; or its release is heard, where that counts, with another note than the
latest. -/
def AtNote (chip : ChipState) : Prop :=
  (chip.Sounds voice ∧ ((chip.channels.get voice).note.isSome = true ∨
      hearing.lastGate (3 * index + voice) call = some .on)) ∨
    (hearing.start.options.notesInRelease = true ∧ chip.Releases voice ∧
      ∃ note, (chip.channels.get voice).steadyNote (hearing.lastNote (3 * index + voice) call)
          hearing.start.options.vibratoMargin = some note ∧
        some note ≠ hearing.lastNote (3 * index + voice) call)

/-- A tracker has what a reader of the events before a call has. -/
structure Tracks (tracker : VoiceTracker) : Prop where
  known : (hearing.extractor call).voices[number]? = some tracker
  active : tracker.active = true ↔ hearing.lastGate number call = some .on
  note : tracker.note = hearing.lastNote number call

/-- What a call reports of a voice's frequency. -/
structure ReportsFrequency (chip : ChipState) : Prop where
  /-- There is one event for the voice. -/
  event : (hearing.extraction call).events[3 * index + voice.val]? =
    some (hearing.event (3 * index + voice) call)
  /-- At a note it carries the frequency, -/
  reported : hearing.AtNote index voice call chip →
    (hearing.event (3 * index + voice) call).frequency = some (chip.channels.get voice).frequency
  /-- and otherwise none. -/
  unreported : ¬ hearing.AtNote index voice call chip →
    (hearing.event (3 * index + voice) call).frequency = none
  /-- In particular a gate that is closed without a note comes without a frequency. -/
  closing : (hearing.event (3 * index + voice) call).gate = some .off →
    (hearing.event (3 * index + voice) call).note = none →
    (hearing.event (3 * index + voice) call).frequency = none

variable {hearing index voice call}

/-- A row that has the voice takes its tracker a step further. -/
lemma Tracks.exists_step {tracker : VoiceTracker} {chip : ChipState}
    (tracks : hearing.Tracks (3 * index + voice) call tracker)
    (found : (hearing.rows call).chips[index]? = some chip) :
    ∃ table : InstrumentTable,
      let step := VoiceStep.of hearing.start.options tracker table (chip.channels.get voice)
        (Pass.silenced chip voice)
      (hearing.extraction call).events[3 * index + voice.val]? = some step.event ∧
        (hearing.extractor (call + 1)).voices[3 * index + voice.val]? = some step.tracker := by
  obtain ⟨table, meets⟩ := Extractor.process_meets (hearing.tables call) found voice tracks.known
  rw [← hearing.options_extractor]
  exact ⟨table, meets.event, meets.after⟩

lemma Tracks.next {tracker after : VoiceTracker} {number : ℕ} {event : VoiceEvent}
    (h : hearing.Tracks number call tracker)
    (known : (hearing.extractor (call + 1)).voices[number]? = some after)
    (happened : hearing.event number call = event)
    (active : after.active = match event.gate with
      | some .on => true
      | some .off => false
      | none => tracker.active)
    (note : after.note = event.note.or tracker.note) : hearing.Tracks number (call + 1) after where
  known := known
  active := by
    rw [active, lastGate, happened]
    cases event.gate with
    | none => exact h.active
    | some change => cases change <;> simp
  note := by rw [note, lastNote, happened, h.note]

/-- **The tracker follows the events**, over all rows, whether or not they have the voice. -/
lemma exists_tracks (fresh : hearing.Tracks (3 * index + voice) 0 .initial) (call : ℕ) :
    ∃ tracker, hearing.Tracks (3 * index + voice) call tracker := by
  induction call with
  | zero => exact ⟨_, fresh⟩
  | succ call ih =>
    obtain ⟨tracker, tracks⟩ := ih
    cases found : (hearing.rows call).chips[index]? with
    | none =>
      obtain ⟨kept, missing⟩ := Extractor.process_without (hearing.tables call) found voice
      have happened : hearing.event (3 * index + voice) call = .unchanged := by
        rw [Hearing.event, extraction, missing, Option.getD_none]
      exact ⟨tracker, tracks.next (kept.trans tracks.known) happened rfl rfl⟩
    | some chip =>
      obtain ⟨table, happened, after⟩ := tracks.exists_step found
      have explains := VoiceStep.of_explains hearing.start.options tracker table
        (chip.channels.get voice) (Pass.silenced chip voice)
      exact ⟨_, tracks.next after (by rw [Hearing.event, happened, Option.getD_some])
        explains.active VoiceStep.note_of⟩

/-! ### The frequency -/

/-- What a voice's step asks of its tracker is what its reader asks of the events. -/
lemma Tracks.reports_iff {tracker : VoiceTracker} {chip : ChipState}
    (tracks : hearing.Tracks (3 * index + voice) call tracker) :
    (VoiceStep.triggers hearing.start.options tracker (chip.channels.get voice)
        (Pass.silenced chip voice) ||
      (tracker.active && (chip.channels.get voice).sounding (Pass.silenced chip voice))) = true ↔
      hearing.AtNote index voice call chip := by
  unfold AtNote
  rw [ChipState.sounds_iff, ChipState.releases_iff, ← tracks.active, ← tracks.note]
  cases sounds : (chip.channels.get voice).sounding (Pass.silenced chip voice) with
  | true =>
    have unreleased : (chip.channels.get voice).releasing (Pass.silenced chip voice) = false :=
      Channel.releasing_of_sounding sounds
    rw [← sounds, VoiceStep.triggers_or_active sounds]
    simp [sounds, unreleased]
  | false =>
    rw [← sounds, VoiceStep.triggers_of_mute sounds]
    simp [sounds]

lemma Tracks.reportsFrequency {tracker : VoiceTracker} {chip : ChipState}
    (tracks : hearing.Tracks (3 * index + voice) call tracker)
    (everyCall : hearing.start.options.frequencyEveryCall = true)
    (found : (hearing.rows call).chips[index]? = some chip) :
    hearing.ReportsFrequency index voice call chip := by
  obtain ⟨table, happened, -⟩ := tracks.exists_step found
  set step := VoiceStep.of hearing.start.options tracker table (chip.channels.get voice)
    (Pass.silenced chip voice)
  have event : hearing.event (3 * index + voice) call = step.event := by
    rw [Hearing.event, happened, Option.getD_some]
  have frequency : step.event.frequency = _ := VoiceStep.frequency_of everyCall
  refine ⟨event ▸ happened, fun noted => ?_, fun unnoted => ?_, ?_⟩
  · rw [event, frequency, if_pos (tracks.reports_iff.mpr noted)]
  · rw [event, frequency, if_neg (mt tracks.reports_iff.mp unnoted)]
  · rw [event]
    intro closes unnoted
    have mute := ((VoiceStep.of_gated _ _ _ _ _).closes closes).1
    have untriggered : step.event.note.isSome = VoiceStep.triggers hearing.start.options tracker
        (chip.channels.get voice) (Pass.silenced chip voice) := VoiceStep.isSome_note_of
    rw [unnoted, Option.isSome_none] at untriggered
    rw [frequency, ← untriggered, mute]
    simp

end Hearing

/-- **The frequency is reported where a voice is at a note**, and at no other call, although it was
asked for at every call: for all rows that a new extractor is given, every voice that it has and
every call at which the row has it. -/
theorem frequency_reported_atNote (options : ExtractOptions) (voices : ℕ) (rows : ℕ → Row)
    (tables : ℕ → InstrumentTable) (everyCall : options.frequencyEveryCall = true) :
    let hearing : Hearing := ⟨.new voices options, rows, tables⟩
    ∀ (call index : ℕ) (voice : Fin Chip.voiceCount) (chip : ChipState),
      3 * index + voice.val < voices → (rows call).chips[index]? = some chip →
      hearing.ReportsFrequency index voice call chip := by
  intro hearing call index voice chip tracked found
  have fresh : hearing.Tracks (3 * index + voice) 0 .initial := by
    refine ⟨?_, ?_, rfl⟩
    · show (Array.replicate voices VoiceTracker.initial)[3 * index + voice.val]? = _
      rw [Array.getElem?_replicate, if_pos tracked]
    · exact ⟨nofun, nofun⟩
  obtain ⟨tracker, tracks⟩ := Hearing.exists_tracks fresh call
  exact tracks.reportsFrequency everyCall found

/-! ### A gate that closes -/

/-- A voice at A4, with its gate open. -/
def openChannel : Channel :=
  { Channel.silent with frequency := 0x1D45, note := some 69, waveform := 0x10, gate := .on }

/-- The same voice after its gate was closed, while the release is heard. -/
def closedChannel : Channel :=
  { openChannel with gate := .off, inRelease := true }

/-- A chip whose first voice is given. -/
def chipPlaying (channel : Channel) : ChipState where
  volume := 0
  cutoff := 0
  resonance := 0
  routing := 0
  mode := 0
  voice3Off := false
  channels := #v[channel, .silent, .silent]

/-- The gate is open at the first call, and closed from the second on. -/
def closingRow (call : ℕ) : Row where
  call := UInt64.ofNat call
  time := 1000 * UInt64.ofNat call
  chips := [chipPlaying (if call = 0 then openChannel else closedChannel)]

namespace closingRow

/-- An extractor that is asked for the frequency at every call, and for notes in releases. -/
def hearing : Hearing :=
  ⟨.new 3 ⟨0.0, true, true⟩, closingRow, fun _ => .empty⟩

/-- The theorem there: the second call closes the gate and has no frequency. -/
theorem second_unreported : 3 * 0 + (0 : Fin Chip.voiceCount).val < 3 ∧
    (closingRow 1).chips[0]? = some (chipPlaying closedChannel) ∧
    (hearing.event 0 0).frequency = some 0x1D45 ∧ (hearing.event 0 1).gate = some .off ∧
      (hearing.event 0 1).frequency = none := by
  have tracked : 3 * 0 + (0 : Fin Chip.voiceCount).val < 3 := by decide
  have found : (closingRow 1).chips[0]? = some (chipPlaying closedChannel) := rfl
  have first := frequency_reported_atNote ⟨0.0, true, true⟩ 3 closingRow (fun _ => .empty) rfl 0 0 0
    (chipPlaying openChannel) tracked rfl
  have second := frequency_reported_atNote ⟨0.0, true, true⟩ 3 closingRow (fun _ => .empty) rfl 1 0
    0 (chipPlaying closedChannel) tracked found
  have sounds : (chipPlaying openChannel).Sounds 0 := ⟨rfl, rfl, by decide, nofun⟩
  have closes : (hearing.event 0 1).gate = some .off := by decide +kernel
  have unnoted : (hearing.event 0 1).note = none := by decide +kernel
  exact ⟨tracked, found, first.reported (.inl ⟨sounds, .inl rfl⟩), closes,
    second.closing closes unnoted⟩

end closingRow

/-- Asking for the frequency at every call is no promise that every call has it. -/
theorem every_call_law_fails : ¬ ∀ (options : ExtractOptions) (voices : ℕ) (rows : ℕ → Row)
    (tables : ℕ → InstrumentTable), options.frequencyEveryCall = true →
    ∀ (call index : ℕ) (voice : Fin Chip.voiceCount) (chip : ChipState),
      3 * index + voice.val < voices → (rows call).chips[index]? = some chip →
      ((Hearing.mk (.new voices options) rows tables).event (3 * index + voice) call).frequency =
        some (chip.channels.get voice).frequency := by
  intro law
  have reported := law ⟨0.0, true, true⟩ 3 closingRow (fun _ => .empty) rfl 1 0 0
    (chipPlaying closedChannel) (by decide) rfl
  have missing : (closingRow.hearing.event 0 1).frequency = none := by decide +kernel
  cases missing.symm.trans reported

end SidScore
