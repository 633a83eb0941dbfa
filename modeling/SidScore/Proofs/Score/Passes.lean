import SidScore.Proofs.Score.Replay

/-!
# Passing over the voices of a row

The events of a row come out of one pass over its voices, chip by chip.  Each voice has its own
tracker and meets it once, so what the pass does to one voice can be told without the others, up to
the table of instruments, which they share and which only grows.

`Pass.Passed` is what holds between two voices: those passed have their events, those to come have
the trackers with which the pass began.
-/

namespace SidScore

/-- The voices of a list of chips in the order of their numbers. -/
def channelsOf (chips : List ChipState) : List Channel :=
  chips.flatMap fun chip => chip.channels.toList

/-- A channel without the mark of a note. -/
def Channel.unmarked (channel : Channel) : Channel :=
  { channel with newNote := false }

namespace Pass

/-- What a pass that began with the trackers `before` and the instruments `table` has done to the
voices `channels`. -/
structure Passed (before : Array VoiceTracker) (table : InstrumentTable) (channels : List Channel)
    (pass : Pass) : Prop where
  /-- There is an event for each. -/
  count : pass.events.size = channels.length
  /-- There are as many trackers as there were. -/
  trackers : pass.extractor.voices.size = before.size
  /-- Instruments are only added. -/
  grows : pass.table.Continues table
  /-- Trackers of voices to come are as they were. -/
  toCome : ∀ voice : ℕ, pass.events.size ≤ voice → pass.extractor.voices[voice]? = before[voice]?
  /-- The event of a passed voice takes its old tracker to its new one, and the voice is marked if
  a note starts. -/
  done : ∀ (voice : ℕ) (tracker : VoiceTracker) (channel : Channel),
    before[voice]? = some tracker → channels[voice]? = some channel →
    ∃ step : VoiceStep, step.Explains tracker channel ∧
      pass.extractor.voices[voice]? = some step.tracker ∧
      pass.events[voice]? = some step.event ∧
      pass.table.Continues step.table ∧
      channel.newNote = step.event.note.isSome

variable {before : Array VoiceTracker} {table : InstrumentTable} {channels : List Channel}
  {pass : Pass}

lemma passed_nil (extractor : Extractor) (table : InstrumentTable) :
    Passed extractor.voices table [] ⟨extractor, table, #[]⟩ :=
  ⟨rfl, rfl, InstrumentTable.Continues.refl table, fun _ _ => rfl,
    fun _ _ _ _ found => nomatch found⟩

/-- Marking a voice changes nothing that an event reports. -/
lemma explains_marked {step : VoiceStep} {tracker : VoiceTracker} {channel : Channel}
    (h : step.Explains tracker channel) (marked : Bool) :
    step.Explains tracker { channel with newNote := marked } :=
  ⟨h.active, h.frequency, h.reported, h.instrument, h.note⟩

/-- The channel that a pass leaves is marked if a note starts. -/
lemma channel_eq (pass : Pass) (silenced : Bool) (channel : Channel)
    (h : pass.events.size < pass.extractor.voices.size) :
    let step := VoiceStep.of pass.extractor.options (pass.extractor.voices[pass.events.size])
      pass.table channel silenced
    (pass.channel silenced channel).1.extractor.voices =
        pass.extractor.voices.set pass.events.size step.tracker h ∧
      (pass.channel silenced channel).1.events = pass.events.push step.event ∧
      (pass.channel silenced channel).1.table = step.table ∧
      (pass.channel silenced channel).2 =
        if step.starts then { channel with newNote := true } else channel := by
  intro step
  obtain ⟨⟨options, voices, startFrequencies⟩, table, events⟩ := pass
  rw [Pass.channel, dif_pos h]
  dsimp only
  by_cases starts : step.starts = true
  · rw [if_pos starts, if_pos starts]
    exact ⟨rfl, rfl, rfl, rfl⟩
  · rw [if_neg starts, if_neg starts]
    exact ⟨rfl, rfl, rfl, rfl⟩

/-- A voice without a tracker is passed without an event. -/
lemma channel_eq_of_le (pass : Pass) (silenced : Bool) (channel : Channel)
    (h : pass.extractor.voices.size ≤ pass.events.size) :
    pass.channel silenced channel =
      ({ pass with events := pass.events.push .unchanged }, channel) := by
  obtain ⟨⟨options, voices, startFrequencies⟩, table, events⟩ := pass
  rw [Pass.channel, dif_neg (Nat.not_lt_of_le h)]

/-- A pass changes nothing of a voice but its mark. -/
lemma unmarked_channel (pass : Pass) (silenced : Bool) (channel : Channel) :
    (pass.channel silenced channel).2.unmarked = channel.unmarked := by
  by_cases room : pass.events.size < pass.extractor.voices.size
  · obtain ⟨-, -, -, marked⟩ := channel_eq pass silenced channel room
    rw [marked]
    split <;> rfl
  · rw [channel_eq_of_le pass silenced channel (Nat.le_of_not_lt room)]

lemma unmarked_chip (pass : Pass) (chip : ChipState) (voice : Fin Chip.voiceCount) :
    ((pass.chip chip).2.channels.get voice).unmarked = (chip.channels.get voice).unmarked := by
  unfold Pass.chip
  match voice with
  | 0 => exact unmarked_channel _ _ _
  | 1 => exact unmarked_channel _ _ _
  | 2 => exact unmarked_channel _ _ _

lemma unmarked_chips (pass : Pass) (chips : List ChipState) (index : ℕ)
    (voice : Fin Chip.voiceCount) :
    ((pass.chips chips).2[index]?.map fun chip => (chip.channels.get voice).unmarked) =
      chips[index]?.map fun chip => (chip.channels.get voice).unmarked := by
  induction chips generalizing pass index with
  | nil => rfl
  | cons chip chips ih =>
    rw [Pass.chips]
    cases index with
    | zero => exact congrArg some (unmarked_chip pass chip voice)
    | succ index => exact ih _ index

/-- One voice more. -/
lemma Passed.channel (h : pass.Passed before table channels) (room : channels.length < before.size)
    (silenced : Bool) {channel : Channel} (unmarked : channel.newNote = false) :
    (pass.channel silenced channel).1.Passed before table
      (channels ++ [(pass.channel silenced channel).2]) := by
  have hvoice : pass.events.size < pass.extractor.voices.size := by
    rw [h.count, h.trackers]
    exact room
  obtain ⟨hvoices, hevents, htable, hchannel⟩ := channel_eq pass silenced channel hvoice
  set tracker := pass.extractor.voices[pass.events.size] with htracker
  set step := VoiceStep.of pass.extractor.options tracker pass.table channel silenced with hstep
  have explains : step.Explains tracker channel := VoiceStep.of_explains _ _ _ _ _
  have continues : step.table.Continues pass.table := VoiceStep.continues_of _ _ _ _ _
  -- The tracker met is the one that the voice had before the pass.
  have met : before[pass.events.size]? = some tracker := by
    rw [← h.toCome _ (Nat.le_refl _), Array.getElem?_eq_getElem hvoice]
  have marked : (pass.channel silenced channel).2 =
      { channel with newNote := step.event.note.isSome } := by
    rw [hchannel, VoiceStep.starts]
    split
    · next starts => rw [starts]
    · next quiet =>
      obtain ⟨⟩ := channel
      simp_all
  refine ⟨?_, ?_, htable ▸ continues.trans h.grows, fun voice later => ?_,
    fun voice old found hold hfound => ?_⟩
  · rw [hevents, Array.size_push, h.count, List.length_append, List.length_singleton]
  · rw [hvoices, Array.size_set, h.trackers]
  · rw [hevents, Array.size_push] at later
    rw [hvoices, Array.getElem?_set_ne hvoice (by omega)]
    exact h.toCome voice (by omega)
  · rw [hvoices, hevents, htable]
    by_cases earlier : voice < channels.length
    · rw [List.getElem?_append_left earlier] at hfound
      obtain ⟨passed, hexplains, hafter, hevent, htab, hmark⟩ := h.done voice old found hold hfound
      have other : pass.events.size ≠ voice := by
        rw [h.count]
        omega
      refine ⟨passed, hexplains, ?_, ?_, continues.trans htab, hmark⟩
      · rw [Array.getElem?_set_ne hvoice other, hafter]
      · rw [Array.getElem?_push, if_neg other.symm, hevent]
    · rw [List.getElem?_append_right (Nat.le_of_not_lt earlier)] at hfound
      obtain ⟨last, hlast⟩ := List.getElem?_eq_some_iff.mp hfound
      rw [List.length_singleton] at last
      have this_one : voice = pass.events.size := by
        rw [h.count]
        omega
      subst this_one
      have same : old = tracker := Option.some.inj (hold.symm.trans met)
      rw [List.getElem_singleton, marked] at hlast
      rw [same, ← hlast]
      exact ⟨step, explains_marked explains _, Array.getElem?_set_self hvoice,
        Array.getElem?_push_size, InstrumentTable.Continues.refl _, rfl⟩

/-- One chip more. -/
lemma Passed.chip (h : pass.Passed before table channels) (room : channels.length + 3 ≤ before.size)
    {chip : ChipState} (unmarked : ∀ voice, (chip.channels.get voice).newNote = false) :
    (pass.chip chip).1.Passed before table (channels ++ (pass.chip chip).2.channels.toList) := by
  unfold Pass.chip
  dsimp only
  have first := h.channel (by omega) (silenced chip 0) (unmarked 0)
  have second := first.channel (by simp; omega) (silenced chip 1) (unmarked 1)
  have third := second.channel (by simp; omega) (silenced chip 2) (unmarked 2)
  rw [List.append_assoc, List.append_assoc] at third
  exact third

/-- A pass over all chips. -/
lemma Passed.chips (h : pass.Passed before table channels) (chips : List ChipState)
    (room : channels.length + 3 * chips.length ≤ before.size)
    (unmarked : ∀ chip ∈ chips, ∀ voice, (chip.channels.get voice).newNote = false) :
    (pass.chips chips).1.Passed before table (channels ++ channelsOf (pass.chips chips).2) := by
  induction chips generalizing pass channels with
  | nil =>
    rw [Pass.chips, channelsOf, List.flatMap_nil, List.append_nil]
    exact h
  | cons chip chips ih =>
    rw [List.length_cons] at room
    have one := h.chip (by omega) (unmarked chip List.mem_cons_self)
    have room : (channels ++ (pass.chip chip).2.channels.toList).length + 3 * chips.length ≤
        before.size := by
      rw [List.length_append, Vector.length_toList, Chip.voiceCount]
      omega
    have rest := ih one room fun other hother => unmarked other (List.mem_cons_of_mem chip hother)
    rw [List.append_assoc] at rest
    rw [Pass.chips, channelsOf, List.flatMap_cons]
    exact rest

end Pass

/-! ## A row -/

lemma getElem?_channelsOf (chips : List ChipState) (voice : ℕ) :
    (channelsOf chips)[voice]? = chips[voice / Chip.voiceCount]?.map fun chip =>
      chip.channels.get ⟨voice % Chip.voiceCount, Nat.mod_lt _ (Nat.zero_lt_succ _)⟩ := by
  simp only [Chip.voiceCount]
  induction chips generalizing voice with
  | nil => rfl
  | cons chip chips ih =>
    have length : chip.channels.toList.length = 3 := Vector.length_toList
    rw [channelsOf, List.flatMap_cons]
    by_cases first : voice < 3
    · have own : voice < chip.channels.toList.length := length ▸ first
      rw [List.getElem?_append_left own, List.getElem?_eq_getElem own, Nat.div_eq_of_lt first]
      have index : voice % 3 = voice := Nat.mod_eq_of_lt first
      simp only [List.getElem?_cons_zero, Option.map_some, index]
      rfl
    · rw [List.getElem?_append_right (by omega), length]
      have quotient : voice / 3 = (voice - 3) / 3 + 1 := by omega
      have rest : voice % 3 = (voice - 3) % 3 := by omega
      simp only [quotient, rest, List.getElem?_cons_succ]
      exact ih (voice - 3)

/-- The voices of a row by their numbers. -/
lemma Row.channel?_eq (row : Row) (voice : ℕ) :
    row.channel? voice = (channelsOf row.chips)[voice]? :=
  (getElem?_channelsOf row.chips voice).symm

lemma length_channelsOf (chips : List ChipState) :
    (channelsOf chips).length = 3 * chips.length := by
  induction chips with
  | nil => rfl
  | cons chip chips ih =>
    have own : chip.channels.toList.length = 3 := Vector.length_toList
    have rest : (chips.flatMap fun chip => chip.channels.toList).length = 3 * chips.length := ih
    rw [channelsOf, List.flatMap_cons, List.length_append, own, rest, List.length_cons]
    omega

lemma Pass.length_chips (pass : Pass) (chips : List ChipState) :
    (pass.chips chips).2.length = chips.length := by
  induction chips generalizing pass with
  | nil => rfl
  | cons chip chips ih => rw [Pass.chips, List.length_cons, List.length_cons, ih]

namespace Extractor

variable {extractor : Extractor} {row : Row} (table : InstrumentTable)

/-- A row shows of each voice what it showed before the pass, but for the marks. -/
lemma unmarked_process (extractor : Extractor) (row : Row) (table : InstrumentTable) (voice : ℕ) :
    ((extractor.process row table).row.channel? voice).map Channel.unmarked =
      (row.channel? voice).map Channel.unmarked := by
  rw [Row.channel?, Row.channel?, Option.map_map, Option.map_map]
  exact Pass.unmarked_chips _ row.chips _ _

/-- What a pass over a whole row has done. -/
lemma process_passed (size : extractor.voices.size = 3 * row.chips.length)
    (unmarked : ∀ chip ∈ row.chips, ∀ voice, (chip.channels.get voice).newNote = false) :
    Pass.Passed extractor.voices table (channelsOf (extractor.process row table).row.chips)
      ⟨(extractor.process row table).extractor, (extractor.process row table).table,
        (extractor.process row table).events⟩ := by
  have start := Pass.passed_nil extractor table
  have room : ([] : List Channel).length + 3 * row.chips.length ≤ extractor.voices.size := by
    rw [List.length_nil, Nat.zero_add]
    exact Nat.le_of_eq size.symm
  have all := start.chips row.chips room unmarked
  rwa [List.nil_append] at all

/-- **What a row means for a voice.**  The voice's event takes its tracker to its new one, and the
voice is marked in the row if a note starts. -/
lemma process_voice (size : extractor.voices.size = 3 * row.chips.length)
    (unmarked : ∀ chip ∈ row.chips, ∀ voice, (chip.channels.get voice).newNote = false)
    {voice : ℕ} {tracker : VoiceTracker} (known : extractor.voices[voice]? = some tracker) :
    ∃ step channel, (extractor.process row table).row.channel? voice = some channel ∧
      VoiceStep.Explains step tracker channel ∧
      (extractor.process row table).extractor.voices[voice]? = some step.tracker ∧
      (extractor.process row table).events[voice]? = some step.event ∧
      (extractor.process row table).table.Continues step.table ∧
      channel.newNote = step.event.note.isSome := by
  have passed := process_passed table size unmarked
  have inside : voice < (channelsOf (extractor.process row table).row.chips).length := by
    obtain ⟨bound, -⟩ := Array.getElem?_eq_some_iff.mp known
    have chips : (extractor.process row table).row.chips.length = row.chips.length :=
      Pass.length_chips _ _
    rw [length_channelsOf, chips, ← size]
    exact bound
  have found := List.getElem?_eq_getElem inside
  obtain ⟨step, explains, after, event, continues, marked⟩ := passed.done _ _ _ known found
  exact ⟨step, _, (Row.channel?_eq _ _).trans found, explains, after, event, continues, marked⟩

end Extractor

end SidScore
