import SidScore.Proofs.Score.Alternation
import SidScore.Proofs.Session.Replay

/-!
# Sessions only grow

A call that goes through makes one row of the recording and at most one row of each voice, `Grown`.
A call that fails makes none and does not move the time on.  So the rows of a session are counted by
the calls that went through, and each begins where those before it end, which the tempo tells:
`Aligned`.

Times are kept in 64 bits and wrap with them.  The rows of a voice come in the order of their calls
in any case, and in the order of their times until the clock comes to its end: `Exact`.
-/

namespace SidScore

/-! ## How long rows last -/

namespace Tempo

/-- The tempo after a number of rows. -/
def later (tempo : Tempo) : ℕ → Tempo
  | 0 => tempo
  | rows + 1 => (later tempo rows).advance

/-- How long a number of rows last together. -/
def elapsed (tempo : Tempo) : ℕ → ℕ
  | 0 => 0
  | rows + 1 => elapsed tempo rows + (tempo.later rows).rowDuration.toNat

lemma elapsed_succ (tempo : Tempo) (rows : ℕ) :
    tempo.elapsed (rows + 1) = tempo.elapsed rows + (tempo.later rows).rowDuration.toNat :=
  rfl

lemma later_fixed (duration : UInt32) (rows : ℕ) :
    (fixed duration).later rows = fixed duration := by
  induction rows with
  | zero => rfl
  | succ rows ih => rw [later, ih, advance]

lemma elapsed_fixed (duration : UInt32) (rows : ℕ) :
    (fixed duration).elapsed rows = rows * duration.toNat := by
  induction rows with
  | zero => simp [elapsed]
  | succ rows ih => rw [elapsed_succ, ih, later_fixed, rowDuration, Nat.succ_mul]

lemma later_swing (first second : UInt32) (rows : ℕ) :
    (swing first second false).later rows = swing first second (rows % 2 == 1) := by
  induction rows with
  | zero => rfl
  | succ rows ih =>
    rw [later, ih, advance]
    congr 1
    obtain even | odd := Nat.mod_two_eq_zero_or_one rows
    · simp [even, Nat.add_mod]
    · simp [odd, Nat.add_mod]

lemma elapsed_swing (first second : UInt32) (rows : ℕ) :
    (swing first second false).elapsed rows =
      rows / 2 * (first.toNat + second.toNat) + rows % 2 * first.toNat := by
  induction rows with
  | zero => simp [elapsed]
  | succ rows ih =>
    rw [elapsed_succ, ih, later_swing, rowDuration]
    obtain even | odd := Nat.mod_two_eq_zero_or_one rows
    · have half : (rows + 1) / 2 = rows / 2 := by omega
      have next : (rows + 1) % 2 = 1 := by omega
      simp [even, half, next]
    · have half : (rows + 1) / 2 = rows / 2 + 1 := by omega
      have next : (rows + 1) % 2 = 0 := by omega
      simp only [odd, half, next, Nat.succ_mul]
      simp
      omega

lemma elapsed_mono (tempo : Tempo) : Monotone tempo.elapsed :=
  monotone_nat_of_le_succ fun _ => Nat.le_add_right _ _

/-- It takes more than `2 ^ 32` rows to reach the end of the clock. -/
lemma elapsed_lt (tempo : Tempo) {rows : ℕ} (h : rows ≤ 2 ^ 32) : tempo.elapsed rows < 2 ^ 64 := by
  have each (rows : ℕ) : tempo.elapsed rows ≤ rows * (2 ^ 32 - 1) := by
    induction rows with
    | zero => simp [elapsed]
    | succ rows ih =>
      have longest := (tempo.later rows).rowDuration.toNat_lt
      rw [elapsed_succ]
      omega
  have total := each rows
  omega

end Tempo

/-! ## What a row says -/

/-- The row says nothing. -/
def DeltaRow.Blank (row : DeltaRow) : Prop :=
  row.note = none ∧ row.gate = none ∧ row.frequency = none ∧ row.instrument = none ∧
    row.tempo = none

/-- A row that a call appends is of the time of the call, and says something. -/
lemma VoiceLine.time_nonblank_of_mem_newRows {line : VoiceLine} {time : UInt64} {event : VoiceEvent}
    {duration : UInt32} {row : DeltaRow} (h : row ∈ line.newRows time event duration) :
    row.time = time ∧ ¬ row.Blank := by
  rw [newRows] at h
  split at h
  · cases h
  · next loud =>
    rw [List.mem_singleton] at h
    subst h
    refine ⟨rfl, ?_⟩
    intro blank
    obtain ⟨note, gate, frequency, instrument, tempo⟩ := blank
    apply loud
    simp_all [VoiceEvent.isEmpty]

namespace Session

/-! ## One call -/

/-- What a call that goes through adds to a session. -/
structure Grown (before after : Session) : Prop where
  /-- The recording has one row more, with the number and the time of the call. -/
  row : ∃ row, after.recording.rows = before.recording.rows.push row ∧
    row.call = before.calls ∧ row.time = before.time
  /-- There are as many voices. -/
  voices : after.timeline.voices.size = before.timeline.voices.size
  /-- Each voice has at most one row more, of the time of the call, which says something. -/
  lines : ∀ voice, ∃ new, after.line voice = before.line voice ++ new ∧ new.length ≤ 1 ∧
    ∀ row ∈ new, row.time = before.time ∧ ¬ row.Blank
  /-- Instruments are only added. -/
  instruments : after.timeline.instruments.Continues before.timeline.instruments
  /-- So are the frequencies at which notes start. -/
  frequencies : before.extractor.startFrequencies.toList <+:
    after.extractor.startFrequencies.toList
  /-- The call is counted, -/
  calls : after.calls = before.calls + 1
  /-- and the time moves on by a row. -/
  time : after.time = before.time + before.tempo.rowDuration.toUInt64
  tempo : after.tempo = before.tempo.advance

variable {session : Session}

lemma Consistent.grown_append (h : session.Consistent) (stores : List Store) :
    Grown session (session.append stores) where
  row := ⟨(session.extraction stores).row, rfl, rfl, rfl⟩
  voices := by rw [timeline_append, Timeline.size_voices_appendFrom]
  lines voice := by
    by_cases hvoice : voice < 3 * session.sampler.chips.length
    · obtain ⟨line, _, _, _, _, recorded⟩ := recorded_append h stores hvoice
      rw [line_eq_of_getElem? recorded.line_before, line_eq_of_getElem? recorded.line_after,
        VoiceLine.toList_append]
      exact ⟨_, rfl, VoiceLine.length_newRows _ _ _,
        fun _ => VoiceLine.time_nonblank_of_mem_newRows⟩
    · have beyond : session.timeline.voices.size ≤ voice := by
        rw [h.lines]
        exact Nat.le_of_not_lt hvoice
      refine ⟨[], ?_, by simp, by simp⟩
      rw [line_eq_nil beyond, line_eq_nil]
      · rfl
      · rwa [timeline_append, Timeline.size_voices_appendFrom]
  instruments := (h.extends_append stores).instruments
  frequencies := by
    have marks := Pass.chips_marks ⟨session.extractor, session.timeline.instruments, #[]⟩
      (session.sampled stores).1.chips (unmarked_sampled stores)
    exact ⟨_, marks.frequencies.symm⟩
  calls := rfl
  time := rfl
  tempo := rfl

lemma Consistent.grown_step (h : session.Consistent) (succeeds : session.step.result = .ok ()) :
    Grown session session.step.state := by
  rw [step_ok succeeds]
  have grown := h.played.grown_append session.taken
  exact ⟨grown.row, grown.voices, grown.lines, grown.instruments, grown.frequencies, grown.calls,
    grown.time, grown.tempo⟩

/-! ## Any calls -/

/-- How many of a number of calls go through. -/
def successes (session : Session) : ℕ → ℕ
  | 0 => 0
  | n + 1 => successes session n + if (session.after n).step.result.isOk then 1 else 0

/-- A session that began with a tempo stands at its `count`-th call. -/
structure Aligned (start : Tempo) (session : Session) (count : ℕ) : Prop where
  calls : session.calls = .ofNat count
  tempo : session.tempo = start.later count
  time : session.time = .ofNat (start.elapsed count)
  /-- Every call has its row, -/
  rows : session.recording.rows.size = count
  /-- with its number and its time. -/
  row : ∀ (k : ℕ) (row : Row), session.recording.rows[k]? = some row →
    row.call = .ofNat k ∧ row.time = .ofNat (start.elapsed k)
  /-- The rows of a voice are of the times of some of the calls, in order, -/
  line : ∀ voice, ∃ calls : List ℕ, calls.Pairwise (· < ·) ∧ (∀ k ∈ calls, k < count) ∧
    (session.line voice).map DeltaRow.time = calls.map fun k => .ofNat (start.elapsed k)
  /-- and each of them says something. -/
  nonblank : ∀ voice, ∀ row ∈ session.line voice, ¬ row.Blank

variable {start : Tempo} {count : ℕ}

lemma aligned_ofPlayer (options : ImportOptions) (player : Player) :
    Aligned (ofPlayer options player).tempo (ofPlayer options player) 0 := by
  have silent (voice : ℕ) : (ofPlayer options player).line voice = [] := by
    rw [Session.line, Timeline.rows, ofPlayer, Timeline.new, Array.getElem?_replicate]
    split <;> rfl
  refine ⟨rfl, rfl, rfl, rfl, ?_, ?_, ?_⟩
  · intro k row found
    simp [ofPlayer, Recording.new] at found
  · intro voice
    exact ⟨[], by simp [silent]⟩
  · intro voice row among
    rw [silent] at among
    cases among

/-- One call more. -/
lemma Aligned.grown {before after : Session} (h : Aligned start before count)
    (grown : Grown before after) : Aligned start after (count + 1) := by
  obtain ⟨added, pushed, number, date⟩ := grown.row
  have moved : after.time = .ofNat (start.elapsed (count + 1)) := by
    rw [grown.time, h.time, h.tempo, Tempo.elapsed_succ, UInt64.ofNat_add,
      UInt64.ofNat_uInt32ToNat]
  refine ⟨?_, ?_, moved, ?_, ?_, ?_, ?_⟩
  · rw [grown.calls, h.calls, UInt64.ofNat_add]
    rfl
  · rw [grown.tempo, h.tempo, Tempo.later]
  · rw [pushed, Array.size_push, h.rows]
  · intro k row found
    rw [pushed, Array.getElem?_push, h.rows] at found
    split at found
    · next this_one =>
      cases found
      rw [number, date, h.calls, h.time, this_one]
      exact ⟨rfl, rfl⟩
    · exact h.row k row found
  · intro voice
    obtain ⟨calls, ordered, below, times⟩ := h.line voice
    obtain ⟨new, line, short, fresh⟩ := grown.lines voice
    have still : ∀ k ∈ calls, k < count + 1 := fun k hk => Nat.lt_succ_of_lt (below k hk)
    match new with
    | [] => exact ⟨calls, ordered, still, by rw [line, List.append_nil, times]⟩
    | [row] =>
      refine ⟨calls ++ [count], ?_, ?_, ?_⟩
      · rw [List.pairwise_append]
        simpa [ordered] using below
      · simpa [or_imp, forall_and] using still
      · rw [line, List.map_append, List.map_append, times]
        simp [(fresh row (by simp)).1, h.time]
    | _ :: _ :: _ => simp at short
  · intro voice row among
    obtain ⟨new, line, -, fresh⟩ := grown.lines voice
    rw [line, List.mem_append] at among
    obtain old | new := among
    · exact h.nonblank voice row old
    · exact (fresh row new).2

lemma Consistent.aligned_step (consistent : session.Consistent) (h : Aligned start session count) :
    Aligned start session.step.state
      (count + if session.step.result.isOk then 1 else 0) := by
  cases hresult : session.step.result with
  | error fault =>
    rw [step_error hresult]
    exact ⟨h.calls, h.tempo, h.time, h.rows, h.row, h.line, h.nonblank⟩
  | ok _ => exact h.grown (consistent.grown_step hresult)

lemma Consistent.aligned_after (consistent : session.Consistent)
    (h : Aligned session.tempo session 0) (n : ℕ) :
    Aligned session.tempo (session.after n) (session.successes n) := by
  induction n with
  | zero => exact h
  | succ n ih => exact (consistent.after n).aligned_step ih

/-- Calls and times are what they are as numbers. -/
structure Exact (start : Tempo) (session : Session) (count : ℕ) : Prop where
  calls : session.calls.toNat = count
  time : session.time.toNat = start.elapsed count
  row : ∀ (k : ℕ) (row : Row), session.recording.rows[k]? = some row →
    row.call.toNat = k ∧ row.time.toNat = start.elapsed k
  /-- The rows of a voice are in the order of their times. -/
  sorted : ∀ voice, (session.line voice).Pairwise fun early late => early.time ≤ late.time

/-- This is so until the clock comes to its end. -/
lemma Aligned.exact (h : Aligned start session count) (countable : count < 2 ^ 64)
    (short : start.elapsed count < 2 ^ 64) : Exact start session count := by
  have within {k : ℕ} (hk : k ≤ count) : (UInt64.ofNat (start.elapsed k)).toNat = start.elapsed k :=
    UInt64.toNat_ofNat_of_lt' (lt_of_le_of_lt (start.elapsed_mono hk) short)
  refine ⟨?_, ?_, ?_, ?_⟩
  · rw [h.calls, UInt64.toNat_ofNat_of_lt' countable]
  · rw [h.time, within le_rfl]
  · intro k row found
    obtain ⟨inside, -⟩ := Array.getElem?_eq_some_iff.mp found
    rw [h.rows] at inside
    obtain ⟨number, date⟩ := h.row k row found
    rw [number, date, within inside.le, UInt64.toNat_ofNat_of_lt' (inside.trans countable)]
    exact ⟨rfl, rfl⟩
  · intro voice
    obtain ⟨calls, ordered, below, times⟩ := h.line voice
    rw [← List.pairwise_map (f := DeltaRow.time), times, List.pairwise_map]
    apply ordered.imp_of_mem
    intro early late hearly hlate order
    rw [UInt64.le_iff_toNat_le, within (below early hearly).le, within (below late hlate).le]
    exact start.elapsed_mono order.le

lemma Consistent.frequencies_step (h : session.Consistent) :
    session.extractor.startFrequencies.toList <+:
      session.step.state.extractor.startFrequencies.toList := by
  cases hresult : session.step.result with
  | error fault => simp [step_error hresult]
  | ok _ => exact (h.grown_step hresult).frequencies

lemma Consistent.frequencies_after (h : session.Consistent) {m n : ℕ} (hmn : m ≤ n) :
    (session.after m).extractor.startFrequencies.toList <+:
      (session.after n).extractor.startFrequencies.toList := by
  induction hmn with
  | refl => exact List.prefix_rfl
  | step _ ih => exact ih.trans (h.after _).frequencies_step

/-- **Sessions only grow.**  Take a session at its start and any number of calls, `count` of which
went through.  Calls, rows and times are aligned with these, and what the tempo makes of the times
is told by the options.  One call more adds to the session what `Grown` lists if it goes through,
and changes the machine alone if it fails.  All that was there after fewer calls is still there, in
its place.  Times are exact, and the rows of each voice in their order, while the clock has not come
to its end, for which it takes more than `2 ^ 32` calls. -/
theorem session_grows (options : ImportOptions) (player : Player) (n : ℕ) :
    let start := ofPlayer options player
    let session := start.after n
    let count := start.successes n
    Aligned start.tempo session count ∧
      session.timeline.voices.size = 3 * player.setup.file.header.chipBases.length ∧
      (∀ first second, options.swing = some (first, second) → ∀ k, start.tempo.elapsed k =
        k / 2 * (first.toNat + second.toNat) + k % 2 * first.toNat) ∧
      (options.swing = none → ∃ duration, start.tempo = .fixed duration ∧
        ∀ k, start.tempo.elapsed k = k * duration.toNat) ∧
      (session.step.result = .ok () → Grown session session.step.state) ∧
      (∀ fault, session.step.result = .error fault →
        session.step.state = { session with player := session.player.play.state }) ∧
      (∀ m ≤ n, session.Extends (start.after m) ∧
        (start.after m).extractor.startFrequencies.toList <+:
          session.extractor.startFrequencies.toList) ∧
      (count < 2 ^ 64 → start.tempo.elapsed count < 2 ^ 64 →
        Exact start.tempo session count) ∧
      (count ≤ 2 ^ 32 → start.tempo.elapsed count < 2 ^ 64) := by
  intro start session count
  have consistent : start.Consistent := consistent_ofPlayer options player
  have aligned : Aligned start.tempo session count :=
    consistent.aligned_after (aligned_ofPlayer options player) n
  refine ⟨aligned, ?_, ?_, ?_, (consistent.after n).grown_step, fun _ => step_error, ?_,
    aligned.exact, start.tempo.elapsed_lt⟩
  · have bases : start.sampler.chips.length = player.setup.file.header.chipBases.length :=
      List.length_map _
    rw [(consistent.after n).lines, length_chips_after, bases]
  · intro first second swings k
    have tempo : start.tempo = .swing first second false := by
      show tempoFor options player.timing.multispeed = _
      rw [tempoFor, swings]
    rw [tempo, Tempo.elapsed_swing]
  · intro steady
    have tempo : start.tempo = .ofMultispeed player.timing.multispeed := by
      show tempoFor options player.timing.multispeed = _
      rw [tempoFor, steady]
    refine ⟨_, tempo, ?_⟩
    intro k
    rw [tempo, Tempo.ofMultispeed, Tempo.elapsed_fixed]
  · intro m earlier
    exact ⟨consistent.extends_after earlier, consistent.frequencies_after earlier⟩

namespace trill

lemma successes_three : (ofPlayer swung player).successes 3 = 3 := by
  decide +kernel

/-- Three calls go through, and their rows last two frames, one and two: the time has moved on by
five, and each row and each note is where the rows before it end. -/
theorem three_calls : (ofPlayer swung player).successes 3 = 3 ∧
    ((ofPlayer swung player).after 3).recording.rows.size = 3 ∧
    ((ofPlayer swung player).after 3).time = 5000 ∧
    (∀ k row, ((ofPlayer swung player).after 3).recording.rows[k]? = some row →
      row.call.toNat = k ∧ row.time.toNat = k / 2 * 3000 + k % 2 * 2000) ∧
    (((ofPlayer swung player).after 3).line 0).Pairwise fun early late =>
      early.time ≤ late.time := by
  obtain ⟨aligned, -, swings, -, -, -, -, exact_times, -⟩ := session_grows swung player 3
  have elapsed := swings 2000 1000 rfl
  rw [successes_three] at aligned exact_times
  have short : (ofPlayer swung player).tempo.elapsed 3 < 2 ^ 64 := by
    rw [elapsed]
    decide
  obtain ⟨-, -, dates, sorted⟩ := exact_times (by decide) short
  refine ⟨successes_three, aligned.rows, ?_, ?_, sorted 0⟩
  · rw [aligned.time, elapsed]
    rfl
  · intro k row found
    obtain ⟨number, date⟩ := dates k row found
    rw [elapsed] at date
    exact ⟨number, date⟩

end trill

end Session

end SidScore
