import Mathlib.Tactic.Common
import SidScore.Score.Extractor
import SidScore.Score.Timeline

/-!
# Replaying a voice

A row of a timeline leaves out what did not change, so its reader takes, for each field, the latest
value that some row gives: `latest`.  The writer spreads over three places.  The tracker of a voice
remembers what was reported, the line of a voice remembers the duration it named, and the table of
instruments is shared by all voices.  `VoiceLine.Follows` says how reader and writer hang together:
what the tracker remembers is what the reader reads off the rows.

One call means one event for the voice.  `VoiceStep.Explains` says what an event must report for
the reader to keep up with the tracker, and every event reports it.  From there on nothing depends
on how events come about.
-/

namespace SidScore

/-! ## The reader -/

/-- The value of the latest row that gives the field one. -/
def latest {α : Type} (field : DeltaRow → Option α) (rows : List DeltaRow) : Option α :=
  (rows.filterMap field).getLast?

lemma latest_append {α : Type} (field : DeltaRow → Option α) (rows : List DeltaRow)
    (row : DeltaRow) : latest field (rows ++ [row]) = (field row).or (latest field rows) := by
  rw [latest, List.filterMap_append, List.getLast?_append]
  cases hrow : field row with
  | none => simp [hrow, latest]
  | some value => simp [hrow]

/-! ## The table of instruments -/

namespace InstrumentTable

/-- One table continues another: what is found in the one is found in the other. -/
def Continues (after before : InstrumentTable) : Prop :=
  before.entries.toList <+: after.entries.toList

lemma Continues.refl (table : InstrumentTable) : table.Continues table :=
  List.prefix_rfl

lemma Continues.trans {first second third : InstrumentTable} (late : third.Continues second)
    (early : second.Continues first) : third.Continues first :=
  List.IsPrefix.trans early late

lemma Continues.get? {after before : InstrumentTable} (h : after.Continues before) {index : ℕ}
    {instrument : Instrument} (found : before.get? index = some instrument) :
    after.get? index = some instrument := by
  rw [InstrumentTable.get?, ← Array.getElem?_toList] at found ⊢
  obtain ⟨rest, hrest⟩ := h
  obtain ⟨inside, -⟩ := List.getElem?_eq_some_iff.mp found
  rw [← hrest, List.getElem?_append_left inside, found]

lemma continues_indexOf (table : InstrumentTable) (instrument : Instrument) :
    (table.indexOf instrument).2.Continues table := by
  unfold indexOf
  split
  · exact Continues.refl table
  · rw [Continues, Array.toList_push]
    exact List.prefix_append _ _

/-- The place that a table gives an instrument is where it is. -/
lemma get?_indexOf (table : InstrumentTable) (instrument : Instrument) :
    (table.indexOf instrument).2.get? (table.indexOf instrument).1 = some instrument := by
  unfold indexOf
  split
  · next index found =>
    obtain ⟨hindex, same, -⟩ := Array.findIdx?_eq_some_iff_getElem.mp found
    rw [get?, Array.getElem?_eq_getElem hindex, beq_iff_eq.mp same]
  · rw [get?, Array.getElem?_push_size]

end InstrumentTable

/-! ## What an event reports -/

lemma VoiceEvent.eq_unchanged {event : VoiceEvent} (h : event.isEmpty = true) :
    event = unchanged := by
  obtain ⟨note, gate, frequency, instrument⟩ := event
  simp only [isEmpty, Bool.and_eq_true, Option.isNone_iff_eq_none] at h
  obtain ⟨⟨⟨rfl, rfl⟩, rfl⟩, rfl⟩ := h
  rfl

namespace VoiceStep

/-- What the event of a call reports of a voice: enough to know the voice's tracker after the call
for whoever knew it before. -/
structure Explains (step : VoiceStep) (before : VoiceTracker) (channel : Channel) : Prop where
  /-- A gate is reported where it changes. -/
  active : step.tracker.active =
    match step.event.gate with
    | some .on => true
    | some .off => false
    | none => before.active
  /-- The tracker has the frequency of the call. -/
  frequency : step.tracker.frequency = channel.frequency
  /-- While the gate counts as open, the frequency is reported where it changes. -/
  reported : step.tracker.active = true →
    step.event.frequency = some channel.frequency ∨
      step.event.frequency = none ∧ before.active = true ∧ before.frequency = channel.frequency
  /-- An instrument is reported where it changes. -/
  instrument : step.tracker.instrument = step.event.instrument.or before.instrument
  /-- A starting note comes with its frequency and its instrument. -/
  note : step.event.note.isSome = true →
    step.event.frequency = some channel.frequency ∧
      ∃ index, step.tracker.instrument = some index ∧
        step.table.get? index = some (.ofChannel channel)

variable {tracker : VoiceTracker} {table : InstrumentTable} {channel : Channel}

lemma start_explains {note : Option UInt8} {sounding : Bool} :
    (start tracker table channel note sounding).Explains tracker channel where
  active := by
    cases sounding with
    | true => rfl
    | false => cases hactive : tracker.active <;> simp [start, hactive]
  frequency := rfl
  reported _ := .inl rfl
  instrument := by
    by_cases same : tracker.instrument = some (table.indexOf (.ofChannel channel)).1
    · simp [start, same]
    · simp [start, same]
  note _ := ⟨rfl, _, rfl, table.get?_indexOf _⟩

lemma carryOn_explains {sounding everyCall : Bool} :
    (carryOn tracker table channel sounding everyCall).Explains tracker channel := by
  unfold carryOn
  by_cases closes : (tracker.active && !sounding) = true
  · rw [if_pos closes]
    exact ⟨rfl, rfl, nofun, rfl, nofun⟩
  · rw [if_neg closes]
    by_cases changes : (tracker.active && (everyCall || channel.frequency != tracker.frequency))
        = true
    · rw [if_pos changes]
      exact ⟨rfl, rfl, fun _ => .inl rfl, rfl, nofun⟩
    · rw [if_neg changes]
      refine ⟨rfl, rfl, fun active => .inr ⟨rfl, active, ?_⟩, rfl, nofun⟩
      -- The frequency went unreported of an open gate, so it did not change.
      have active : tracker.active = true := active
      have unchanged : channel.frequency = tracker.frequency := by
        simp [active] at changes
        exact changes.2
      exact unchanged.symm

/-- A call either starts a note or carries on. -/
lemma of_eq (options : ExtractOptions) (tracker : VoiceTracker) (table : InstrumentTable)
    (channel : Channel) (silenced : Bool) : ∃ note sounding,
    VoiceStep.of options tracker table channel silenced =
        start tracker table channel note sounding ∨
      VoiceStep.of options tracker table channel silenced =
        carryOn tracker table channel sounding options.frequencyEveryCall :=
  ⟨_, _, ite_eq_or_eq _ _ _⟩

/-- Every event reports what it must. -/
lemma of_explains (options : ExtractOptions) (tracker : VoiceTracker) (table : InstrumentTable)
    (channel : Channel) (silenced : Bool) :
    (VoiceStep.of options tracker table channel silenced).Explains tracker channel := by
  obtain ⟨note, sounding, starts | carries⟩ := of_eq options tracker table channel silenced
  · rw [starts]
    exact start_explains
  · rw [carries]
    exact carryOn_explains

lemma continues_of (options : ExtractOptions) (tracker : VoiceTracker) (table : InstrumentTable)
    (channel : Channel) (silenced : Bool) :
    (VoiceStep.of options tracker table channel silenced).table.Continues table := by
  obtain ⟨note, sounding, starts | carries⟩ := of_eq options tracker table channel silenced
  · rw [starts]
    exact table.continues_indexOf _
  · rw [carries, carryOn]
    split_ifs <;> exact InstrumentTable.Continues.refl table

end VoiceStep

/-! ## One call of one voice -/

namespace VoiceLine

/-- The reader of a line knows what the writer remembers. -/
structure Follows (line : VoiceLine) (tracker : VoiceTracker) : Prop where
  /-- The duration that was named last. -/
  tempo : latest DeltaRow.tempo line.rows.toList = line.tempo
  /-- Whether the gate was last reported open. -/
  gate : latest DeltaRow.gate line.rows.toList = some .on ↔ tracker.active = true
  /-- The frequency, while the gate counts as open. -/
  frequency : tracker.active = true →
    latest DeltaRow.frequency line.rows.toList = some tracker.frequency
  /-- The instrument. -/
  instrument : latest DeltaRow.instrument line.rows.toList = tracker.instrument

lemma empty_follows : empty.Follows .initial :=
  ⟨rfl, ⟨nofun, nofun⟩, nofun, rfl⟩

variable (line : VoiceLine) (time : UInt64) (event : VoiceEvent) (duration : UInt32)

/-- The duration that a call names, if it is not the one named last. -/
def namedTempo : Option UInt32 :=
  if line.tempo = some duration then none else some duration

/-- The rows that a call appends: one, or none if there is nothing to say. -/
def newRows : List DeltaRow :=
  if event.isEmpty && (line.namedTempo duration).isNone then []
  else
    [⟨time, event.note, event.gate, event.frequency, event.instrument, line.namedTempo duration⟩]

lemma toList_append :
    (line.append time event duration).rows.toList =
      line.rows.toList ++ line.newRows time event duration := by
  change (if event.isEmpty && (line.namedTempo duration).isNone then line else _).rows.toList = _
  rw [newRows]
  split
  · exact (List.append_nil _).symm
  · exact Array.toList_push

/-- The writer remembers the duration of the call. -/
lemma tempo_append : (line.append time event duration).tempo = some duration := by
  change (if event.isEmpty && (line.namedTempo duration).isNone then line else _).tempo = _
  split
  · next silent =>
    have unnamed : (line.namedTempo duration).isNone = true := (Bool.and_eq_true _ _ ▸ silent).2
    by_cases same : line.tempo = some duration
    · exact same
    · simp [namedTempo, same] at unnamed
  · rfl

/-- What the reader has after a call: what the event reports, or else what there was before. -/
lemma latest_append {α : Type} {field : DeltaRow → Option α} {value : Option α}
    (reported : ∀ tempo, field ⟨time, event.note, event.gate, event.frequency, event.instrument,
      tempo⟩ = value)
    (silent : event.isEmpty = true → value = none) :
    latest field (line.append time event duration).rows.toList =
      value.or (latest field line.rows.toList) := by
  rw [toList_append, newRows]
  split
  · next h =>
    rw [List.append_nil, silent (Bool.and_eq_true _ _ ▸ h).1, Option.none_or]
  · rw [SidScore.latest_append, reported]

lemma latest_gate_append : latest DeltaRow.gate (line.append time event duration).rows.toList =
    event.gate.or (latest DeltaRow.gate line.rows.toList) :=
  latest_append line time event duration (fun _ => rfl) fun silent => by
    rw [VoiceEvent.eq_unchanged silent, VoiceEvent.unchanged]

lemma latest_frequency_append :
    latest DeltaRow.frequency (line.append time event duration).rows.toList =
      event.frequency.or (latest DeltaRow.frequency line.rows.toList) :=
  latest_append line time event duration (fun _ => rfl) fun silent => by
    rw [VoiceEvent.eq_unchanged silent, VoiceEvent.unchanged]

lemma latest_instrument_append :
    latest DeltaRow.instrument (line.append time event duration).rows.toList =
      event.instrument.or (latest DeltaRow.instrument line.rows.toList) :=
  latest_append line time event duration (fun _ => rfl) fun silent => by
    rw [VoiceEvent.eq_unchanged silent, VoiceEvent.unchanged]

/-- The same of the duration, which the reader knows after every call. -/
lemma latest_tempo_append {tracker : VoiceTracker} (h : line.Follows tracker) :
    latest DeltaRow.tempo (line.append time event duration).rows.toList = some duration := by
  rw [toList_append, newRows]
  by_cases same : line.tempo = some duration
  · have before : latest DeltaRow.tempo line.rows.toList = some duration := h.tempo.trans same
    have unnamed : line.namedTempo duration = none := if_pos same
    rw [unnamed]
    split
    · rw [List.append_nil, before]
    · rw [SidScore.latest_append, before, Option.none_or]
  · have named : line.namedTempo duration = some duration := if_neg same
    rw [named, Option.isNone_some, Bool.and_false, if_neg Bool.false_ne_true,
      SidScore.latest_append, Option.some_or]

variable {line}

/-- **One call keeps reader and writer together.** -/
lemma Follows.append {tracker : VoiceTracker} (h : line.Follows tracker) {step : VoiceStep}
    {channel : Channel} (explains : step.Explains tracker channel) :
    (line.append time step.event duration).Follows step.tracker where
  tempo := by rw [latest_tempo_append line _ _ _ h, tempo_append]
  gate := by
    rw [latest_gate_append, explains.active]
    cases step.event.gate with
    | none => exact h.gate
    | some gate => cases gate <;> simp
  frequency active := by
    rw [latest_frequency_append, explains.frequency]
    obtain reported | ⟨unreported, before, same⟩ := explains.reported active
    · rw [reported, Option.some_or]
    · rw [unreported, Option.none_or, h.frequency before, same]
  instrument := by rw [latest_instrument_append, explains.instrument, h.instrument]

lemma length_newRows : (line.newRows time event duration).length ≤ 1 := by
  rw [newRows]
  split <;> simp

/-- A row that a call appends reports the event. -/
lemma of_mem_newRows {row : DeltaRow} (h : row ∈ line.newRows time event duration) :
    row.note = event.note ∧ row.frequency = event.frequency := by
  rw [newRows] at h
  split at h
  · cases h
  · rw [List.mem_singleton] at h
    rw [h]
    exact ⟨rfl, rfl⟩

/-- A note makes a row. -/
lemma exists_note_newRows :
    (∃ row ∈ line.newRows time event duration, row.note.isSome = true) ↔
      event.note.isSome = true := by
  constructor
  · rintro ⟨row, hrow, note⟩
    rwa [← (of_mem_newRows time event duration hrow).1]
  · intro note
    have loud : (event.isEmpty && (line.namedTempo duration).isNone) = false := by
      cases hempty : event.isEmpty with
      | false => rfl
      | true =>
        rw [VoiceEvent.eq_unchanged hempty] at note
        cases note
    rw [newRows, loud, if_neg Bool.false_ne_true]
    exact ⟨_, List.mem_singleton_self _, note⟩

end VoiceLine

/-! ## One call of all voices -/

namespace Timeline

lemma size_voices_appendFrom (timeline : Timeline) (voice : ℕ) (time : UInt64) (tempo : Tempo)
    (events : List VoiceEvent) :
    (timeline.appendFrom voice time tempo events).voices.size = timeline.voices.size := by
  induction events generalizing timeline voice with
  | nil => rfl
  | cons event events ih => rw [appendFrom, ih, append, Array.size_modify]

lemma instruments_appendFrom (timeline : Timeline) (voice : ℕ) (time : UInt64) (tempo : Tempo)
    (events : List VoiceEvent) :
    (timeline.appendFrom voice time tempo events).instruments = timeline.instruments := by
  induction events generalizing timeline voice with
  | nil => rfl
  | cons event events ih => rw [appendFrom, ih, append]

/-- Voices before the first event stay as they are. -/
lemma voices_appendFrom_of_lt (timeline : Timeline) {voice other : ℕ} (time : UInt64)
    (tempo : Tempo) (events : List VoiceEvent) (h : other < voice) :
    (timeline.appendFrom voice time tempo events).voices[other]? = timeline.voices[other]? := by
  induction events generalizing timeline voice with
  | nil => rfl
  | cons event events ih =>
    rw [appendFrom, ih _ (Nat.lt_succ_of_lt h), append, Array.getElem?_modify,
      if_neg (Nat.ne_of_gt h)]

/-- Each voice gets its own event. -/
lemma voices_appendFrom (timeline : Timeline) (voice : ℕ) (time : UInt64) (tempo : Tempo)
    (events : List VoiceEvent) {i : ℕ} {event : VoiceEvent} (h : events[i]? = some event) :
    (timeline.appendFrom voice time tempo events).voices[voice + i]? =
      timeline.voices[voice + i]?.map (·.append time event tempo.rowDuration) := by
  induction events generalizing timeline voice i with
  | nil => cases h
  | cons first events ih =>
    cases i with
    | zero =>
      have same : first = event := by simpa using h
      rw [Nat.add_zero, appendFrom, voices_appendFrom_of_lt _ _ _ _ (Nat.lt_add_one voice), append,
        Array.getElem?_modify, if_pos rfl, same]
    | succ i =>
      have later : events[i]? = some event := by simpa using h
      have shift : voice + (i + 1) = voice + 1 + i := by omega
      rw [appendFrom, shift, ih _ _ later, append, Array.getElem?_modify, if_neg (by omega)]

end Timeline

end SidScore
