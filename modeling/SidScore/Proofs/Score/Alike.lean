import Mathlib.Data.List.Forall2
import Mathlib.Data.List.Nodup
import SidScore.Proofs.Score.Passes

/-!
# One voice in two scores

Two scores in which one voice did the same need not be equal on that voice.  The voices share a
table of instruments, so what the others did decides at which place an instrument stands.  Two
voices are alike if they agree on everything but these places, and the places hold the same
instrument, each in its own table: `InstrumentTable.SamePlace`.

The comparison of an instrument with the one reported last is a comparison of places.  It comes out
alike because a table never lists an instrument twice, `InstrumentTable.Distinct`.
-/

namespace SidScore

/-! ## Places in two tables -/

namespace InstrumentTable

variable {table left right : InstrumentTable}

/-- No instrument is listed twice. -/
def Distinct (table : InstrumentTable) : Prop :=
  table.entries.toList.Nodup

lemma distinct_empty : empty.Distinct :=
  List.nodup_nil

lemma Distinct.indexOf (h : table.Distinct) (instrument : Instrument) :
    (table.indexOf instrument).2.Distinct := by
  unfold InstrumentTable.indexOf
  split
  next => exact h
  next absent =>
    have new : instrument ∉ table.entries.toList := by
      intro listed
      have unequal := Array.findIdx?_eq_none_iff.mp absent instrument
        (Array.mem_toList_iff.mp listed)
      simp at unequal
    rw [Distinct, Array.toList_push, ← List.concat_eq_append]
    exact h.concat new

/-- An instrument has one place. -/
lemma Distinct.eq_of_get? (h : table.Distinct) {i j : ℕ} {instrument : Instrument}
    (hi : table.get? i = some instrument) (hj : table.get? j = some instrument) : i = j := by
  rw [InstrumentTable.get?, ← Array.getElem?_toList] at hi hj
  exact (List.getElem?_inj (List.getElem?_eq_some_iff.mp hi).1 h).mp (hi.trans hj.symm)

variable (left right) in
/-- Two places hold the same instrument, each in its own table. -/
def SamePlace (i j : ℕ) : Prop :=
  ∃ instrument, left.get? i = some instrument ∧ right.get? j = some instrument

/-- Places stay what they are while tables grow. -/
lemma SamePlace.grow {left' right' : InstrumentTable} {i j : ℕ} (h : SamePlace left right i j)
    (leftGrows : left'.Continues left) (rightGrows : right'.Continues right) :
    SamePlace left' right' i j := by
  obtain ⟨instrument, hi, hj⟩ := h
  exact ⟨instrument, leftGrows.get? hi, rightGrows.get? hj⟩

lemma samePlace_indexOf (left right : InstrumentTable) (instrument : Instrument) :
    SamePlace (left.indexOf instrument).2 (right.indexOf instrument).2
      (left.indexOf instrument).1 (right.indexOf instrument).1 :=
  ⟨instrument, left.get?_indexOf instrument, right.get?_indexOf instrument⟩

/-- Whether two places are one is the same question in both tables. -/
lemma SamePlace.eq_iff {i j i' j' : ℕ} (leftDistinct : left.Distinct)
    (rightDistinct : right.Distinct) (h : SamePlace left right i j)
    (h' : SamePlace left right i' j') : i = i' ↔ j = j' := by
  obtain ⟨instrument, hi, hj⟩ := h
  obtain ⟨other, hi', hj'⟩ := h'
  constructor
  · rintro rfl
    obtain rfl : instrument = other := Option.some.inj (hi.symm.trans hi')
    exact rightDistinct.eq_of_get? hj hj'
  · rintro rfl
    obtain rfl : instrument = other := Option.some.inj (hj.symm.trans hj')
    exact leftDistinct.eq_of_get? hi hi'

end InstrumentTable

open InstrumentTable

/-! ## One call of one voice -/

section Voice

variable {left right left' right' : InstrumentTable}

/-- Two options of places, with the same instrument or both without one. -/
abbrev SamePlaces (left right : InstrumentTable) : Option ℕ → Option ℕ → Prop :=
  Option.Rel (SamePlace left right)

lemma SamePlaces.grow {i j : Option ℕ} (h : SamePlaces left right i j)
    (leftGrows : left'.Continues left) (rightGrows : right'.Continues right) :
    SamePlaces left' right' i j := by
  cases h with
  | none => exact .none
  | some same => exact .some (same.grow leftGrows rightGrows)

lemma SamePlaces.isNone_eq {i j : Option ℕ} (h : SamePlaces left right i j) :
    i.isNone = j.isNone := by
  cases h with
  | none => rfl
  | some same => rfl

lemma SamePlaces.eq_some_iff {i j : Option ℕ} {place place' : ℕ} (h : SamePlaces left right i j)
    (leftDistinct : left.Distinct) (rightDistinct : right.Distinct)
    (same : SamePlace left right place place') : i = some place ↔ j = some place' := by
  cases h with
  | none => exact ⟨nofun, nofun⟩
  | some other =>
    rw [Option.some.injEq, Option.some.injEq]
    exact other.eq_iff leftDistinct rightDistinct same

variable (left right)

/-- The trackers remember the same. -/
structure VoiceTracker.Alike (a b : VoiceTracker) : Prop where
  active : a.active = b.active
  note : a.note = b.note
  frequency : a.frequency = b.frequency
  instrument : SamePlaces left right a.instrument b.instrument

/-- The events report the same. -/
structure VoiceEvent.Alike (a b : VoiceEvent) : Prop where
  note : a.note = b.note
  gate : a.gate = b.gate
  frequency : a.frequency = b.frequency
  instrument : SamePlaces left right a.instrument b.instrument

/-- The rows say the same. -/
structure DeltaRow.Alike (a b : DeltaRow) : Prop where
  time : a.time = b.time
  note : a.note = b.note
  gate : a.gate = b.gate
  frequency : a.frequency = b.frequency
  instrument : SamePlaces left right a.instrument b.instrument
  tempo : a.tempo = b.tempo

/-- The lines name the same durations, and say the same row by row. -/
structure VoiceLine.Alike (a b : VoiceLine) : Prop where
  tempo : a.tempo = b.tempo
  rows : List.Forall₂ (DeltaRow.Alike left right) a.rows.toList b.rows.toList

variable {left right}

lemma VoiceTracker.Alike.grow {a b : VoiceTracker} (h : VoiceTracker.Alike left right a b)
    (leftGrows : left'.Continues left) (rightGrows : right'.Continues right) :
    VoiceTracker.Alike left' right' a b :=
  ⟨h.active, h.note, h.frequency, SamePlaces.grow h.instrument leftGrows rightGrows⟩

lemma VoiceEvent.Alike.grow {a b : VoiceEvent} (h : VoiceEvent.Alike left right a b)
    (leftGrows : left'.Continues left) (rightGrows : right'.Continues right) :
    VoiceEvent.Alike left' right' a b :=
  ⟨h.note, h.gate, h.frequency, SamePlaces.grow h.instrument leftGrows rightGrows⟩

lemma DeltaRow.Alike.grow {a b : DeltaRow} (h : DeltaRow.Alike left right a b)
    (leftGrows : left'.Continues left) (rightGrows : right'.Continues right) :
    DeltaRow.Alike left' right' a b :=
  ⟨h.time, h.note, h.gate, h.frequency, SamePlaces.grow h.instrument leftGrows rightGrows, h.tempo⟩

/-- Both events say something, or neither does. -/
lemma VoiceEvent.Alike.isEmpty_eq {a b : VoiceEvent} (h : VoiceEvent.Alike left right a b) :
    a.isEmpty = b.isEmpty := by
  rw [VoiceEvent.isEmpty, VoiceEvent.isEmpty, h.note, h.gate, h.frequency,
    SamePlaces.isNone_eq h.instrument]

namespace VoiceStep

/-- The steps do the same to the voice. -/
structure Alike (a b : VoiceStep) : Prop where
  event : VoiceEvent.Alike a.table b.table a.event b.event
  tracker : VoiceTracker.Alike a.table b.table a.tracker b.tracker

/-- A call of a voice starts a note. -/
def triggers (options : ExtractOptions) (tracker : VoiceTracker) (channel : Channel)
    (silenced : Bool) : Bool :=
  let note := channel.steadyNote tracker.note options.vibratoMargin
  note.isSome &&
    if channel.sounding silenced then
      !tracker.active || note != tracker.note || channel.gateDoubleToggle
    else options.notesInRelease && channel.releasing silenced && note != tracker.note

lemma of_eq_ite (options : ExtractOptions) (tracker : VoiceTracker) (table : InstrumentTable)
    (channel : Channel) (silenced : Bool) :
    VoiceStep.of options tracker table channel silenced =
      if triggers options tracker channel silenced then
        start tracker table channel (channel.steadyNote tracker.note options.vibratoMargin)
          (channel.sounding silenced)
      else
        carryOn tracker table channel (channel.sounding silenced) options.frequencyEveryCall :=
  rfl

variable {a b : VoiceTracker} (h : VoiceTracker.Alike left right a b)
include h

/-- A note that starts names its instrument in both scores or in neither. -/
lemma start_alike (leftDistinct : left.Distinct) (rightDistinct : right.Distinct)
    (channel : Channel) (note : Option UInt8) (sounding : Bool) :
    (start a left channel note sounding).Alike (start b right channel note sounding) := by
  set instrument := Instrument.ofChannel channel with hinstrument
  have place := samePlace_indexOf left right instrument
  have remembered := SamePlaces.grow h.instrument (left.continues_indexOf instrument)
    (right.continues_indexOf instrument)
  have repeated := remembered.eq_some_iff (leftDistinct.indexOf instrument)
    (rightDistinct.indexOf instrument) place
  refine ⟨⟨rfl, ?_, rfl, ?_⟩, ⟨rfl, rfl, rfl, .some place⟩⟩
  · simp only [start, h.active]
  · simp only [start, ← hinstrument]
    by_cases same : a.instrument = some (left.indexOf instrument).1
    · rw [if_pos same, if_pos (repeated.mp same)]
      exact .none
    · rw [if_neg same, if_neg (mt repeated.mpr same)]
      exact .some place

lemma carryOn_alike (channel : Channel) (sounding everyCall : Bool) :
    (carryOn a left channel sounding everyCall).Alike
      (carryOn b right channel sounding everyCall) := by
  have unreported : SamePlaces left right none none := .none
  unfold carryOn
  rw [h.active, h.frequency]
  dsimp only
  split
  · exact ⟨⟨rfl, rfl, rfl, unreported⟩, ⟨rfl, h.note, rfl, h.instrument⟩⟩
  · split
    · exact ⟨⟨rfl, rfl, rfl, unreported⟩, ⟨rfl, h.note, rfl, h.instrument⟩⟩
    · exact ⟨⟨rfl, rfl, rfl, unreported⟩, ⟨rfl, h.note, rfl, h.instrument⟩⟩

/-- **One call of a voice in two scores.** -/
lemma of_alike (leftDistinct : left.Distinct) (rightDistinct : right.Distinct)
    (options : ExtractOptions) (channel : Channel) (silenced : Bool) :
    (VoiceStep.of options a left channel silenced).Alike
      (VoiceStep.of options b right channel silenced) := by
  have triggered : triggers options a channel silenced = triggers options b channel silenced := by
    rw [triggers, triggers, h.active, h.note]
  rw [of_eq_ite, of_eq_ite, triggered, h.note]
  split
  · exact start_alike h leftDistinct rightDistinct channel _ _
  · exact carryOn_alike h channel _ _

end VoiceStep

namespace VoiceLine

lemma empty_alike : VoiceLine.Alike left right empty empty :=
  ⟨rfl, .nil⟩

/-- A call appends a row to both lines or to neither, and the rows are alike. -/
lemma Alike.append {a b : VoiceLine} (h : VoiceLine.Alike left right a b)
    (leftGrows : left'.Continues left) (rightGrows : right'.Continues right)
    {event event' : VoiceEvent} (same : VoiceEvent.Alike left' right' event event')
    (time : UInt64) (duration : UInt32) :
    VoiceLine.Alike left' right' (a.append time event duration)
      (b.append time event' duration) := by
  have named : a.namedTempo duration = b.namedTempo duration := by
    rw [namedTempo, namedTempo, h.tempo]
  refine ⟨by rw [tempo_append, tempo_append], ?_⟩
  rw [toList_append, toList_append]
  refine List.rel_append (h.rows.imp fun _ _ row => row.grow leftGrows rightGrows) ?_
  rw [newRows, newRows, same.isEmpty_eq, named]
  split
  · exact .nil
  · exact .cons ⟨rfl, same.note, same.gate, same.frequency, same.instrument, rfl⟩ .nil

end VoiceLine

end Voice

/-! ## One voice in a pass -/

namespace VoiceStep

lemma distinct_of (options : ExtractOptions) (tracker : VoiceTracker) {table : InstrumentTable}
    (h : table.Distinct) (channel : Channel) (silenced : Bool) :
    (VoiceStep.of options tracker table channel silenced).table.Distinct := by
  obtain ⟨note, sounding, starts | carries⟩ := of_eq options tracker table channel silenced
  · rw [starts]
    exact h.indexOf _
  · rw [carries, carryOn]
    split_ifs <;> exact h

end VoiceStep

namespace Pass

/-- What a pass is given of each voice in turn: whether it is silent, and its channel. -/
def inputsOf (chips : List ChipState) : List (Bool × Channel) :=
  chips.flatMap fun chip =>
    (List.finRange Chip.voiceCount).map fun voice => (silenced chip voice, chip.channels.get voice)

/-- Passes voice after voice. -/
def voices (pass : Pass) (inputs : List (Bool × Channel)) : Pass :=
  inputs.foldl (fun pass input => (pass.channel input.1 input.2).1) pass

lemma chips_eq_voices (pass : Pass) (chips : List ChipState) :
    (pass.chips chips).1 = pass.voices (inputsOf chips) := by
  induction chips generalizing pass with
  | nil => rfl
  | cons chip rest ih =>
    rw [Pass.chips, inputsOf, List.flatMap_cons, voices, List.foldl_append]
    exact ih _

/-- What passing voices leaves of all that it began with. -/
structure Spares (start final : Pass) : Prop where
  options : final.extractor.options = start.extractor.options
  size : final.extractor.voices.size = start.extractor.voices.size
  counts : start.events.size ≤ final.events.size
  /-- The table only grows, and lists nothing twice. -/
  grows : final.table.Continues start.table
  distinct : start.table.Distinct → final.table.Distinct
  /-- The voices passed before keep what they have. -/
  done : ∀ voice < start.events.size,
    final.extractor.voices[voice]? = start.extractor.voices[voice]? ∧
      final.events[voice]? = start.events[voice]?
  /-- The voices to come keep their trackers. -/
  toCome : ∀ voice, final.events.size ≤ voice →
    final.extractor.voices[voice]? = start.extractor.voices[voice]?

/-- A voice is met on the way from `start` to `final`, with a table that lies between theirs, and
keeps what the call means for it. -/
structure Meets (start final : Pass) (voice : ℕ) (tracker : VoiceTracker) (input : Bool × Channel)
    (table : InstrumentTable) : Prop where
  grown : table.Continues start.table
  distinct : start.table.Distinct → table.Distinct
  after : final.extractor.voices[voice]? = some
    (VoiceStep.of start.extractor.options tracker table input.2 input.1).tracker
  event : final.events[voice]? = some
    (VoiceStep.of start.extractor.options tracker table input.2 input.1).event
  grows : final.table.Continues
    (VoiceStep.of start.extractor.options tracker table input.2 input.1).table

lemma Spares.refl (pass : Pass) : pass.Spares pass :=
  ⟨rfl, rfl, Nat.le_refl _, .refl _, id, fun _ _ => ⟨rfl, rfl⟩, fun _ _ => rfl⟩

lemma Spares.trans {first second third : Pass} (h : first.Spares second)
    (h' : second.Spares third) : first.Spares third where
  options := h'.options.trans h.options
  size := h'.size.trans h.size
  counts := Nat.le_trans h.counts h'.counts
  grows := h'.grows.trans h.grows
  distinct unique := h'.distinct (h.distinct unique)
  done voice earlier := by
    obtain ⟨tracker, event⟩ := h.done voice earlier
    obtain ⟨tracker', event'⟩ := h'.done voice (Nat.lt_of_lt_of_le earlier h.counts)
    exact ⟨tracker'.trans tracker, event'.trans event⟩
  toCome voice later :=
    (h'.toCome voice later).trans (h.toCome voice (Nat.le_trans h'.counts later))

/-- A voice that is met in the middle of a pass is met in the whole of it. -/
lemma Meets.extend {start early late final : Pass} {voice : ℕ} {tracker : VoiceTracker}
    {input : Bool × Channel} {table : InstrumentTable}
    (h : early.Meets late voice tracker input table) (before : start.Spares early)
    (inside : voice < late.events.size) (behind : late.Spares final) :
    start.Meets final voice tracker input table := by
  obtain ⟨after, event⟩ := behind.done voice inside
  refine ⟨h.grown.trans before.grows, fun unique => h.distinct (before.distinct unique), ?_, ?_, ?_⟩
  · rw [after, h.after, before.options]
  · rw [event, h.event, before.options]
  · rw [← before.options]
    exact behind.grows.trans h.grows

variable {pass : Pass}

/-- One voice more, whether or not there is a tracker for it. -/
lemma channel_spares (pass : Pass) (silenced : Bool) (channel : Channel) :
    (pass.channel silenced channel).1.events.size = pass.events.size + 1 ∧
      pass.Spares (pass.channel silenced channel).1 := by
  by_cases room : pass.events.size < pass.extractor.voices.size
  · obtain ⟨trackers, events, table, -⟩ := channel_eq pass silenced channel room
    have options : (pass.channel silenced channel).1.extractor.options =
        pass.extractor.options := by
      unfold Pass.channel
      dsimp only
      split_ifs <;> rfl
    have count : (pass.channel silenced channel).1.events.size = pass.events.size + 1 := by
      rw [events, Array.size_push]
    refine ⟨count, options, ?_, by omega, ?_, ?_, fun voice earlier => ?_, fun voice later => ?_⟩
    · rw [trackers, Array.size_set]
    · rw [table]
      exact VoiceStep.continues_of _ _ _ _ _
    · intro unique
      rw [table]
      exact VoiceStep.distinct_of _ _ unique _ _
    · rw [trackers, events, Array.getElem?_set_ne room (by omega), Array.getElem?_push,
        if_neg (by omega)]
      exact ⟨rfl, rfl⟩
    · rw [trackers, Array.getElem?_set_ne room (by omega)]
  · rw [channel_eq_of_le pass silenced channel (Nat.le_of_not_lt room)]
    refine ⟨Array.size_push _, rfl, rfl, ?_, .refl _, id, fun voice earlier => ⟨rfl, ?_⟩,
      fun _ _ => rfl⟩
    · rw [Array.size_push]
      exact Nat.le_succ _
    · rw [Array.getElem?_push, if_neg (by omega)]

lemma channel_meets (silenced : Bool) (channel : Channel)
    (room : pass.events.size < pass.extractor.voices.size) :
    pass.Meets (pass.channel silenced channel).1 pass.events.size
      pass.extractor.voices[pass.events.size] (silenced, channel) pass.table := by
  obtain ⟨trackers, events, table, -⟩ := channel_eq pass silenced channel room
  refine ⟨.refl _, id, ?_, ?_, ?_⟩
  · rw [trackers]
    exact Array.getElem?_set_self room
  · rw [events]
    exact Array.getElem?_push_size
  · rw [table]
    exact .refl _

/-- A number of voices. -/
lemma voices_spares (pass : Pass) (inputs : List (Bool × Channel)) :
    (pass.voices inputs).events.size = pass.events.size + inputs.length ∧
      pass.Spares (pass.voices inputs) := by
  induction inputs generalizing pass with
  | nil => exact ⟨rfl, .refl pass⟩
  | cons input rest ih =>
    obtain ⟨count, spares⟩ := channel_spares pass input.1 input.2
    obtain ⟨counts, rests⟩ := ih (pass.channel input.1 input.2).1
    refine ⟨?_, spares.trans rests⟩
    rw [voices, List.foldl_cons, List.length_cons]
    exact counts.trans (by omega)

/-- The pass over a number of voices comes by each of them. -/
lemma voices_at (pass : Pass) {inputs : List (Bool × Channel)} {i : ℕ} {input : Bool × Channel}
    (found : inputs[i]? = some input) :
    ∃ early : Pass, pass.Spares early ∧ early.events.size = pass.events.size + i ∧
      (early.channel input.1 input.2).1.Spares (pass.voices inputs) := by
  obtain ⟨inside, rfl⟩ := List.getElem?_eq_some_iff.mp found
  -- The voices before it, itself, and the voices behind it.
  set early := pass.voices (inputs.take i) with hearly
  have parts : pass.voices inputs =
      (early.channel inputs[i].1 inputs[i].2).1.voices (inputs.drop (i + 1)) := by
    have split : inputs = inputs.take i ++ inputs[i] :: inputs.drop (i + 1) := by
      rw [← List.drop_eq_getElem_cons inside, List.take_append_drop]
    conv_lhs => rw [split]
    rw [voices, List.foldl_append, List.foldl_cons]
    rfl
  have length : (inputs.take i).length = i := List.length_take_of_le (Nat.le_of_lt inside)
  obtain ⟨before, spares⟩ := voices_spares pass (inputs.take i)
  rw [length] at before
  obtain ⟨-, behind⟩ := voices_spares (early.channel inputs[i].1 inputs[i].2).1
    (inputs.drop (i + 1))
  rw [parts]
  exact ⟨early, spares, before, behind⟩

/-- **Each voice is met once**, with the tracker that it had before the pass. -/
lemma voices_meets {inputs : List (Bool × Channel)} {i : ℕ} {input : Bool × Channel}
    (found : inputs[i]? = some input) {tracker : VoiceTracker}
    (known : pass.extractor.voices[pass.events.size + i]? = some tracker) :
    ∃ table, pass.Meets (pass.voices inputs) (pass.events.size + i) tracker input table := by
  obtain ⟨early, spares, before, behind⟩ := voices_at pass found
  have kept : early.extractor.voices[early.events.size]? = some tracker := by
    rw [spares.toCome _ (Nat.le_refl _), before]
    exact known
  obtain ⟨own, met⟩ := Array.getElem?_eq_some_iff.mp kept
  obtain ⟨count, -⟩ := channel_spares early input.1 input.2
  have meets := channel_meets input.1 input.2 own
  rw [met, before] at meets
  exact ⟨early.table, meets.extend spares (by omega) behind⟩

/-- A voice without a tracker has no event. -/
lemma voices_misses {inputs : List (Bool × Channel)} {i : ℕ} {input : Bool × Channel}
    (found : inputs[i]? = some input)
    (unknown : pass.extractor.voices[pass.events.size + i]? = none) :
    (pass.voices inputs).events[pass.events.size + i]? = some .unchanged := by
  obtain ⟨early, spares, before, behind⟩ := voices_at pass found
  have beyond : early.extractor.voices.size ≤ early.events.size := by
    rw [spares.size, before]
    exact Array.getElem?_eq_none_iff.mp unknown
  obtain ⟨count, -⟩ := channel_spares early input.1 input.2
  rw [(behind.done _ (by omega)).2, channel_eq_of_le early input.1 input.2 beyond, ← before]
  exact Array.getElem?_push_size

/-! ## A row -/

/-- The voices of a chip stand together, chip after chip. -/
lemma getElem?_inputsOf (chips : List ChipState) (index : ℕ) (voice : Fin Chip.voiceCount) :
    (inputsOf chips)[3 * index + voice]? = chips[index]?.map fun chip =>
      (silenced chip voice, chip.channels.get voice) := by
  induction chips generalizing index with
  | nil => rfl
  | cons chip rest ih =>
    have hvoice : voice.val < 3 := voice.isLt
    cases index with
    | zero =>
      match voice with
      | 0 | 1 | 2 => rfl
    | succ index =>
      have behind : 3 * (index + 1) + voice.val = 3 * index + voice + 3 := by omega
      rw [behind, List.getElem?_cons_succ, ← ih index]
      rfl

end Pass

namespace Extraction

/-- The pass that ends in what is extracted. -/
def pass (extraction : Extraction) : Pass :=
  ⟨extraction.extractor, extraction.table, extraction.events⟩

end Extraction

namespace Extractor

variable {extractor : Extractor} {row : Row} (table : InstrumentTable)

lemma pass_process (extractor : Extractor) (row : Row) (table : InstrumentTable) :
    (extractor.process row table).pass =
      (Pass.mk extractor table #[]).voices (Pass.inputsOf row.chips) :=
  Pass.chips_eq_voices _ _

lemma process_spares : (Pass.mk extractor table #[]).Spares (extractor.process row table).pass := by
  rw [pass_process]
  exact (Pass.voices_spares _ _).2

/-- Every voice of a row is met once in its pass. -/
lemma process_meets {index : ℕ} {chip : ChipState} (found : row.chips[index]? = some chip)
    (voice : Fin Chip.voiceCount) {tracker : VoiceTracker}
    (known : extractor.voices[3 * index + voice]? = some tracker) :
    ∃ met, (Pass.mk extractor table #[]).Meets (extractor.process row table).pass
      (3 * index + voice) tracker (Pass.silenced chip voice, chip.channels.get voice) met := by
  have input : (Pass.inputsOf row.chips)[3 * index + voice.val]? =
      some (Pass.silenced chip voice, chip.channels.get voice) := by
    rw [Pass.getElem?_inputsOf, found, Option.map_some]
  have place : (Pass.mk extractor table #[]).events.size + (3 * index + voice.val) =
      3 * index + voice := Nat.zero_add _
  rw [pass_process, ← place]
  refine Pass.voices_meets input ?_
  rw [place]
  exact known

/-- A voice of a row for which there is no tracker has no event. -/
lemma process_misses {index : ℕ} {chip : ChipState} (found : row.chips[index]? = some chip)
    (voice : Fin Chip.voiceCount) (unknown : extractor.voices[3 * index + voice]? = none) :
    (extractor.process row table).pass.events[3 * index + voice]? = some .unchanged := by
  have input : (Pass.inputsOf row.chips)[3 * index + voice.val]? =
      some (Pass.silenced chip voice, chip.channels.get voice) := by
    rw [Pass.getElem?_inputsOf, found, Option.map_some]
  have place : (Pass.mk extractor table #[]).events.size + (3 * index + voice.val) =
      3 * index + voice := Nat.zero_add _
  rw [pass_process, ← place]
  refine Pass.voices_misses input ?_
  rw [place]
  exact unknown

end Extractor

end SidScore
