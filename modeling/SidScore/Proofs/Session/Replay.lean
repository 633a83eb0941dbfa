import SidScore.Proofs.Sample.Gate
import SidScore.Proofs.Score.Passes
import SidScore.Proofs.Session.Steps

/-!
# A timeline replays its recording

A timeline is written call by call, and each call sees only what the one before left in the
trackers, the lines and the table of instruments.  A reader of the finished timeline sees none of
these.  This module puts the two together: after any calls, whether they went through or failed,
the reader of a voice knows what was sampled of it.

The invariant `Consistent` holds of a session that starts and is kept by every call.  What a call
adds is never taken back, `Extends`, so what holds of the rows after a call can be read off the rows
of any later session.
-/

namespace SidScore

namespace Session

/-- The rows of a voice. -/
def line (session : Session) (voice : ℕ) : List DeltaRow :=
  (session.timeline.rows voice).toList

/-! ## What one call adds -/

/-- The trackers and the lines of a session fit its chips, and each line follows its tracker. -/
structure Consistent (session : Session) : Prop where
  trackers : session.extractor.voices.size = 3 * session.sampler.chips.length
  lines : session.timeline.voices.size = 3 * session.sampler.chips.length
  follows : ∀ (voice : ℕ) (line : VoiceLine) (tracker : VoiceTracker),
    session.timeline.voices[voice]? = some line → session.extractor.voices[voice]? = some tracker →
      line.Follows tracker

lemma consistent_ofPlayer (options : ImportOptions) (player : Player) :
    (ofPlayer options player).Consistent where
  trackers := by simp [ofPlayer, Extractor.new, Sampler.new, Sampler.voiceCount, Chip.voiceCount,
    Nat.mul_comm]
  lines := by simp [ofPlayer, Timeline.new, Sampler.new, Chip.voiceCount, Nat.mul_comm]
  follows voice line tracker hline htracker := by
    simp only [ofPlayer, Timeline.new, Extractor.new, Array.getElem?_replicate] at hline htracker
    split at hline
    · split at htracker
      · cases hline
        cases htracker
        exact VoiceLine.empty_follows
      · cases htracker
    · cases hline

/-- What a call that goes through does to one voice. -/
structure Recorded (before after : Session) (voice : ℕ) (line : VoiceLine)
    (tracker : VoiceTracker) (step : VoiceStep) (row : Row) (channel : Channel) : Prop where
  line_before : before.timeline.voices[voice]? = some line
  tracker_before : before.extractor.voices[voice]? = some tracker
  line_after : after.timeline.voices[voice]? =
    some (line.append before.time step.event before.tempo.rowDuration)
  tracker_after : after.extractor.voices[voice]? = some step.tracker
  instruments : after.timeline.instruments.Continues step.table
  explains : step.Explains tracker channel
  rows : after.recording.rows = before.recording.rows.push row
  time : row.time = before.time
  found : row.channel? voice = some channel
  marked : channel.newNote = step.event.note.isSome

variable {session : Session}

lemma timeline_append (stores : List Store) : (session.append stores).timeline =
    (Timeline.mk session.timeline.voices (session.extraction stores).table).appendFrom 0
      session.time session.tempo (session.extraction stores).events.toList :=
  rfl

lemma instruments_append (stores : List Store) :
    (session.append stores).timeline.instruments = (session.extraction stores).table := by
  rw [timeline_append, Timeline.instruments_appendFrom]

lemma unmarked_sampled (stores : List Store) :
    ∀ chip ∈ (session.sampled stores).1.chips, ∀ voice, (chip.channels.get voice).newNote = false :=
  fun _ hchip => Sampler.sample_unmarked _ _ _ _ _ hchip

lemma Consistent.size_trackers (h : session.Consistent) (stores : List Store) :
    session.extractor.voices.size = 3 * (session.sampled stores).1.chips.length := by
  rw [h.trackers, sampled, Sampler.length_sample_chips]

lemma recorded_append (h : session.Consistent) (stores : List Store) {voice : ℕ}
    (hvoice : voice < 3 * session.sampler.chips.length) :
    ∃ line tracker step row channel,
      Recorded session (session.append stores) voice line tracker step row channel := by
  obtain ⟨line, hline⟩ : ∃ line, session.timeline.voices[voice]? = some line :=
    ⟨_, Array.getElem?_eq_getElem (h.lines ▸ hvoice)⟩
  obtain ⟨tracker, htracker⟩ : ∃ tracker, session.extractor.voices[voice]? = some tracker :=
    ⟨_, Array.getElem?_eq_getElem (h.trackers ▸ hvoice)⟩
  obtain ⟨step, channel, hchannel, explains, after, event, continues, marked⟩ :=
    Extractor.process_voice session.timeline.instruments (h.size_trackers stores)
      (unmarked_sampled stores) htracker
  refine ⟨line, tracker, step, (session.extraction stores).row, channel, hline, htracker, ?_, after,
    ?_, explains, rfl, rfl, hchannel, marked⟩
  · have events : (session.extraction stores).events.toList[voice]? = some step.event := by
      rw [Array.getElem?_toList]
      exact event
    have own := Timeline.voices_appendFrom
      ⟨session.timeline.voices, (session.extraction stores).table⟩ 0 session.time session.tempo _
      events
    rw [Nat.zero_add] at own
    rw [timeline_append, own, hline, Option.map_some]
  · rw [instruments_append]
    exact continues

lemma Consistent.append (h : session.Consistent) (stores : List Store) :
    (session.append stores).Consistent := by
  have chips : (session.append stores).sampler.chips.length = session.sampler.chips.length :=
    Sampler.length_sample_tracked _ _ _ _ session.time
  have lines : (session.append stores).timeline.voices.size = session.timeline.voices.size := by
    rw [timeline_append, Timeline.size_voices_appendFrom]
  have trackers :
      (session.append stores).extractor.voices.size = session.extractor.voices.size :=
    (Extractor.process_passed session.timeline.instruments (h.size_trackers stores)
      (unmarked_sampled stores)).trackers
  refine ⟨?_, ?_, fun voice line tracker hline htracker => ?_⟩
  · rw [trackers, chips, h.trackers]
  · rw [lines, chips, h.lines]
  · have hvoice : voice < 3 * session.sampler.chips.length := by
      obtain ⟨bound, -⟩ := Array.getElem?_eq_some_iff.mp hline
      rw [← h.lines, ← lines]
      exact bound
    obtain ⟨_, _, _, _, _, recorded⟩ := recorded_append h stores hvoice
    have before := h.follows voice _ _ recorded.line_before recorded.tracker_before
    rw [recorded.line_after] at hline
    rw [recorded.tracker_after] at htracker
    cases hline
    cases htracker
    exact before.append session.time session.tempo.rowDuration recorded.explains

lemma Consistent.played (h : session.Consistent) : session.played.Consistent :=
  ⟨h.trackers, h.lines, h.follows⟩

lemma Consistent.step (h : session.Consistent) : session.step.state.Consistent := by
  cases hresult : session.step.result with
  | error fault =>
    rw [step_error hresult]
    exact ⟨h.trackers, h.lines, h.follows⟩
  | ok _ =>
    rw [step_ok hresult]
    exact h.played.append session.taken

lemma length_chips_step :
    session.step.state.sampler.chips.length = session.sampler.chips.length := by
  cases hresult : session.step.result with
  | error fault =>
    rw [step_error hresult]
  | ok _ =>
    rw [step_ok hresult]
    exact Sampler.length_sample_tracked _ _ _ _ session.time

/-- Calls bring no chip and take none away. -/
lemma length_chips_after (n : ℕ) :
    (session.after n).sampler.chips.length = session.sampler.chips.length := by
  induction n with
  | zero => rfl
  | succ n ih => rw [after, length_chips_step, ih]

lemma Consistent.after (h : session.Consistent) (n : ℕ) : (session.after n).Consistent := by
  induction n with
  | zero => exact h
  | succ n ih => exact ih.step

/-! ## What later calls keep -/

/-- A later session has everything that an earlier one had, in the same place. -/
structure Extends (later earlier : Session) : Prop where
  rows : earlier.recording.rows.toList <+: later.recording.rows.toList
  lines : ∀ voice, earlier.line voice <+: later.line voice
  instruments : later.timeline.instruments.Continues earlier.timeline.instruments

lemma Extends.refl (session : Session) : session.Extends session :=
  ⟨List.prefix_rfl, fun _ => List.prefix_rfl, InstrumentTable.Continues.refl _⟩

lemma Extends.trans {first second third : Session} (late : third.Extends second)
    (early : second.Extends first) : third.Extends first :=
  ⟨early.rows.trans late.rows, fun voice => (early.lines voice).trans (late.lines voice),
    late.instruments.trans early.instruments⟩

lemma line_eq_of_getElem? {voice : ℕ} {line : VoiceLine}
    (h : session.timeline.voices[voice]? = some line) : session.line voice = line.rows.toList := by
  rw [Session.line, Timeline.rows, h]
  rfl

/-- A voice that a session does not have has no rows. -/
lemma line_eq_nil {voice : ℕ} (h : session.timeline.voices.size ≤ voice) :
    session.line voice = [] := by
  rw [Session.line, Timeline.rows, Array.getElem?_eq_none h]
  rfl

lemma Consistent.extends_append (h : session.Consistent) (stores : List Store) :
    (session.append stores).Extends session where
  rows := by
    change _ <+: (session.recording.rows.push _).toList
    rw [Array.toList_push]
    exact List.prefix_append _ _
  lines voice := by
    by_cases hvoice : voice < 3 * session.sampler.chips.length
    · obtain ⟨line, _, _, _, _, recorded⟩ := recorded_append h stores hvoice
      rw [line_eq_of_getElem? recorded.line_before, line_eq_of_getElem? recorded.line_after,
        VoiceLine.toList_append]
      exact List.prefix_append _ _
    · rw [line_eq_nil (by rw [h.lines]; exact Nat.le_of_not_lt hvoice)]
      exact List.nil_prefix
  instruments := by
    rw [instruments_append]
    exact (Extractor.process_passed _ (h.size_trackers stores) (unmarked_sampled stores)).grows

lemma Consistent.extends_step (h : session.Consistent) : session.step.state.Extends session := by
  cases hresult : session.step.result with
  | error fault =>
    rw [step_error hresult]
    exact ⟨List.prefix_rfl, fun _ => List.prefix_rfl, InstrumentTable.Continues.refl _⟩
  | ok _ =>
    rw [step_ok hresult]
    have grown := h.played.extends_append session.taken
    exact ⟨grown.rows, grown.lines, grown.instruments⟩

lemma Consistent.extends_after (h : session.Consistent) {m n : ℕ} (hmn : m ≤ n) :
    (session.after n).Extends (session.after m) := by
  induction hmn with
  | refl => exact Extends.refl _
  | step _ ih => exact (h.after _).extends_step.trans ih

/-- The row of a call keeps its place. -/
lemma Consistent.getElem?_row (h : session.Consistent) {call calls : ℕ} (among : call < calls)
    {row : Row} (recorded : (session.after (call + 1)).recording.rows =
      (session.after call).recording.rows.push row) :
    (session.after calls).recording.rows[(session.after call).recording.rows.size]? =
      some row := by
  obtain ⟨rest, hrest⟩ := (h.extends_after among).rows
  rw [← Array.getElem?_toList, ← hrest, recorded, Array.toList_push, List.append_assoc,
    ← Array.length_toList, List.getElem?_append_right (Nat.le_refl _), Nat.sub_self]
  rfl

/-- What is recorded of a call that goes through is what was sampled, but for the marks. -/
lemma Consistent.exists_sampled (h : session.Consistent) {call calls : ℕ} (among : call < calls)
    (succeeds : (session.after call).step.result = .ok ()) {row : Row}
    (hrow : (session.after calls).recording.rows[(session.after call).recording.rows.size]? =
      some row) {voice : ℕ} {channel : Channel} (hchannel : row.channel? voice = some channel) :
    ∃ sampled, ((session.after call).played.sampled (session.after call).taken).1.channel? voice =
      some sampled ∧ channel.unmarked = sampled.unmarked := by
  have recorded : (session.after (call + 1)).recording.rows =
      (session.after call).recording.rows.push
        ((session.after call).played.extraction (session.after call).taken).row := by
    rw [Session.after, step_ok succeeds]
    rfl
  rw [h.getElem?_row among recorded] at hrow
  cases hrow
  have same := Extractor.unmarked_process (session.after call).played.extractor
    ((session.after call).played.sampled (session.after call).taken).1
    (session.after call).played.timeline.instruments voice
  rw [extraction] at hchannel
  rw [hchannel, Option.map_some] at same
  obtain ⟨sampled, found, hsampled⟩ := Option.map_eq_some_iff.mp same.symm
  exact ⟨sampled, found, hsampled.symm⟩

/-- A store to the control register of a voice shows in its gate. -/
lemma gate_sampled {stores : List Store} {index : ℕ} {base : UInt16}
    (hbase : (session.sampler.chips.map TrackedChip.base)[index]? = some base)
    {voice : Fin Chip.voiceCount} {store : Store} (stored : store ∈ stores)
    (decodes : session.player.machine.bus.canonical store.address =
      Chip.voiceRegister base voice Chip.control) {chip : ChipState}
    (found : (session.sampled stores).1.chips[index]? = some chip) :
    (chip.channels.get voice).gate = gateOf
      (session.player.machine.bus.fetch (Chip.voiceRegister base voice Chip.control)) := by
  obtain ⟨tracked, htracked, rfl⟩ := Sampler.exists_chip rfl hbase
  obtain ⟨routing, state, _, hstate, -, -, voices⟩ :=
    session.sampler.sample_chip session.player.machine.bus stores session.calls session.time
      htracked
  rw [sampled, hstate] at found
  cases found
  rw [(voices voice).1]
  exact (SamplerSettings.gate_sampleVoice_of_touched session.sampler.settings
    session.player.machine.bus stores session.calls tracked routing voice
    (.inl (.inr ⟨store, stored, decodes⟩))).1

/-! ## The reader and the recording -/

/-- What the rows of a voice tell after a call, given what the call sampled of the voice: `new` are
the rows that the call appended, `rows` all up to it, and `table` the instruments at any later
time. -/
structure Replays (duration : UInt32) (channel : Channel) (rows new : List DeltaRow)
    (table : InstrumentTable) : Prop where
  /-- The duration that is named last is that of the call. -/
  tempo : latest DeltaRow.tempo rows = some duration
  /-- While the gate is open, the frequency that is given last is the sampled one. -/
  frequency : latest DeltaRow.gate rows = some .on →
    latest DeltaRow.frequency rows = some channel.frequency
  /-- The call appends a note where the voice is marked, and nowhere else. -/
  note : (∃ row ∈ new, row.note.isSome = true) ↔ channel.newNote = true
  /-- The note has the sampled frequency and, as the instrument given last, the sampled one. -/
  instrument : ∀ row ∈ new, row.note.isSome = true →
    row.frequency = some channel.frequency ∧
      ∃ index, latest DeltaRow.instrument rows = some index ∧
        table.get? index = some (.ofChannel channel)

lemma Recorded.replays {before after : Session} {voice : ℕ} {line : VoiceLine}
    {tracker : VoiceTracker} {step : VoiceStep} {row : Row} {channel : Channel}
    (h : Recorded before after voice line tracker step row channel)
    (follows : line.Follows tracker) {table : InstrumentTable}
    (later : table.Continues after.timeline.instruments) :
    Replays before.tempo.rowDuration channel (after.line voice)
      (line.newRows before.time step.event before.tempo.rowDuration) table := by
  have next := follows.append before.time before.tempo.rowDuration h.explains
  rw [line_eq_of_getElem? h.line_after]
  refine ⟨?_, fun gate => ?_, ?_, fun row hrow note => ?_⟩
  · rw [next.tempo, VoiceLine.tempo_append]
  · rw [next.frequency (next.gate.mp gate), h.explains.frequency]
  · rw [VoiceLine.exists_note_newRows, h.marked]
  · obtain ⟨hnote, hfrequency⟩ := VoiceLine.of_mem_newRows _ _ _ hrow
    rw [hnote] at note
    obtain ⟨frequency, index, hindex, found⟩ := h.explains.note note
    refine ⟨hfrequency.trans frequency, index, next.instrument.trans hindex, ?_⟩
    exact later.get? (h.instruments.get? found)

/-- **A timeline replays its recording.**  Take a session at its start, any number of calls of it,
and among them one that goes through.  The recording has a row for the call, at the place that the
calls before have filled.  Each voice of that row is replayed by the rows of its line up to the
call, which are the first rows of the line in the end and at most one more than before the call. -/
theorem timeline_replays_recording (options : ImportOptions) (player : Player) (call calls : ℕ)
    (among : call < calls)
    (succeeds : ((ofPlayer options player).after call).step.result = .ok ()) (voice : ℕ)
    (hvoice : voice < 3 * player.setup.file.header.chipBases.length) :
    let start := ofPlayer options player
    let before := start.after call
    let after := start.after (call + 1)
    let final := start.after calls
    ∃ row channel new, final.recording.rows[before.recording.rows.size]? = some row ∧
      row.time = before.time ∧ after.time = before.time + before.tempo.rowDuration.toUInt64 ∧
      row.channel? voice = some channel ∧ after.line voice = before.line voice ++ new ∧
      new.length ≤ 1 ∧ after.line voice <+: final.line voice ∧
      Replays before.tempo.rowDuration channel (after.line voice) new
        final.timeline.instruments := by
  intro start before after final
  have consistent : start.Consistent := consistent_ofPlayer options player
  have hbefore : before.Consistent := consistent.after call
  have bases : start.sampler.chips.length = player.setup.file.header.chipBases.length :=
    List.length_map _
  have chips : before.sampler.chips.length = player.setup.file.header.chipBases.length := by
    rw [length_chips_after, bases]
  have hafter : after = before.played.append before.taken := step_ok succeeds
  obtain ⟨line, tracker, step, row, channel, recorded⟩ :=
    recorded_append hbefore.played before.taken (chips ▸ hvoice)
  rw [← hafter] at recorded
  have later : final.Extends after := consistent.extends_after among
  have line_before : before.line voice = line.rows.toList :=
    line_eq_of_getElem? recorded.line_before
  refine ⟨row, channel, _, ?_, ?_, ?_, recorded.found, ?_, ?_, later.lines voice,
    recorded.replays (hbefore.follows voice _ _ recorded.line_before recorded.tracker_before)
      later.instruments⟩
  · exact consistent.getElem?_row among recorded.rows
  · exact recorded.time
  · rw [hafter]
    rfl
  · rw [line_before, line_eq_of_getElem? recorded.line_after, VoiceLine.toList_append]
  · exact VoiceLine.length_newRows _ _ _

/-- A tune with nothing to do in init.  Its play routine at `$0200` counts the calls, has the count
as the frequency of the first voice, and opens the gate of that voice at odd counts and closes it at
even ones. -/
def trill : Setup where
  file :=
    { header := { (default : Header) with version := 1, playAddress := 0x0200, songs := 1 }
      program := [0xE6, 0x20, 0xA5, 0x20, 0x8D, 0x01, 0xD4, 0x29,
        0x01, 0x09, 0x40, 0x8D, 0x04, 0xD4, 0x60]
      loadAddress := 0x0200 }
  region := .pal
  options := .default

namespace trill

/-- The player of the tune. -/
def player : Player where
  setup := trill
  machine := (Machine.powerOn trill.loadedMemory).mapCpu fun cpu =>
    { cpu with exitPolicy := .whenStackEmpty trill.options.stackWrapZone }
  timing := { Timing.initial with playAddress := some 0x0200 }

/-- Rows of two frames and of one, in turn. -/
def swung : ImportOptions :=
  { ImportOptions.default with swing := some (2000, 1000) }

lemma third_ok : ((ofPlayer swung player).after 2).step.result = .ok () :=
  eq_ok_of_isOk (by decide +kernel)

lemma before_third : ((ofPlayer swung player).after 2).recording.rows.size = 2 ∧
    ((ofPlayer swung player).after 2).time = 3000 ∧
    ((ofPlayer swung player).after 2).tempo.rowDuration = 2000 ∧
    ((ofPlayer swung player).after 2).played.sampler.chips.map TrackedChip.base = [0xD400] := by
  decide +kernel

lemma third_stores :
    ((ofPlayer swung player).after 2).taken = [⟨0xD401, 3⟩, ⟨0xD404, 0x41⟩] ∧
    ((ofPlayer swung player).after 2).played.player.machine.bus.canonical 0xD404 = 0xD404 ∧
    ((ofPlayer swung player).after 2).played.player.machine.bus.fetch 0xD404 = 0x41 := by
  decide +kernel

lemma third_frequency : ((((ofPlayer swung player).after 2).played.sampled
    ((ofPlayer swung player).after 2).taken).1.channel? 0).map Channel.frequency =
      some 0x0300 := by
  decide +kernel

lemma third_gate {channel : Channel} (found : (((ofPlayer swung player).after 2).played.sampled
    ((ofPlayer swung player).after 2).taken).1.channel? 0 = some channel) :
    channel.gate = .on := by
  obtain ⟨stores, own, control⟩ := third_stores
  obtain ⟨chip, hchip, rfl⟩ := Option.map_eq_some_iff.mp found
  have base : (((ofPlayer swung player).after 2).played.sampler.chips.map
      TrackedChip.base)[0]? = some 0xD400 := by
    rw [before_third.2.2.2]
    rfl
  have register : Chip.voiceRegister 0xD400 (0 : Fin Chip.voiceCount) Chip.control = 0xD404 := by
    decide
  have stored : (⟨0xD404, 0x41⟩ : Store) ∈ ((ofPlayer swung player).after 2).taken := by
    rw [stores]
    exact List.mem_cons_of_mem _ List.mem_cons_self
  have gate := gate_sampled base stored (own.trans register.symm) hchip
  rw [register, control] at gate
  exact gate

/-- The third call opens the gate again, at a higher frequency and in a row of another length than
the second.  All of it is replayed. -/
theorem third_replayed : ((ofPlayer swung player).after 2).step.result = .ok () ∧
    ∃ row channel new, ((ofPlayer swung player).after 4).recording.rows[2]? = some row ∧
      row.time = 3000 ∧ row.channel? 0 = some channel ∧
      channel.gate = .on ∧ channel.frequency = 0x0300 ∧
      ((ofPlayer swung player).after 3).line 0 = ((ofPlayer swung player).after 2).line 0 ++ new ∧
      Replays 2000 channel (((ofPlayer swung player).after 3).line 0) new
        ((ofPlayer swung player).after 4).timeline.instruments := by
  obtain ⟨row, channel, new, hrow, hdate, -, hchannel, hline, -, -, replays⟩ :=
    timeline_replays_recording swung player 2 4 (by decide) third_ok 0 (by decide)
  obtain ⟨sampled, found, same⟩ :=
    (consistent_ofPlayer swung player).exists_sampled (by decide) third_ok hrow hchannel
  obtain ⟨rows, time, duration, -⟩ := before_third
  rw [rows] at hrow
  rw [duration] at replays
  have frequency := third_frequency
  rw [found] at frequency
  -- The mark is all that distinguishes the recorded voice from the sampled one.
  have gate : channel.gate = sampled.gate := (congrArg Channel.gate same :)
  have pitch : channel.frequency = sampled.frequency := (congrArg Channel.frequency same :)
  exact ⟨third_ok, row, channel, new, hrow, hdate.trans time, hchannel,
    gate.trans (third_gate found), pitch.trans (Option.some.inj frequency), hline, replays⟩

end trill

end Session

end SidScore
