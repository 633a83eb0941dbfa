import SidScore.Proofs.Player.Calls
import SidScore.Proofs.Sample.Gate
import SidScore.Proofs.Session.Steps

/-!
# When a gate is unset

A gate should be unset exactly while its control register is unwritten.  A register is written by a
store to any address that decodes to it, while the registers show: `Written`.  The sampler goes by
two other things, the access log and the stores observed during the last call, which together make
up `Noted`.

The two differ in two ways.  Init's observed stores are dropped, so a register that init wrote
through a repetition of the chip, and that nothing noted since, counts as unwritten.  And neither
record knows what showed at the address, so a store that went into the memory under the registers
counts as a write.  These are `Missed` and `Mistaken`.  The main theorem says that the sampled gate
follows `Noted`, always, and hence that it follows `Written` exactly where neither is the case.
-/

namespace SidScore

/-! ## Written and noted -/

section Stores

variable (canonical : UInt16 → UInt16) (register : UInt16) (init plays : List StoreRecord)

/-- Some store reached the register: it was made while the registers showed, to an address that
decodes to it. -/
def Written : Prop :=
  ∃ record ∈ init ++ plays, record.shown = true ∧ canonical record.address = register

/-- Some store is noted for the register, whatever showed: one to the register's own address, or
one of the play routine to an address that decodes to it. -/
def Noted : Prop :=
  (∃ record ∈ init ++ plays, record.address = register) ∨
    ∃ record ∈ plays, canonical record.address = register

/-- Init wrote the register, but only through other addresses, and nothing was noted since. -/
def Missed : Prop :=
  (∃ record ∈ init, record.shown = true ∧ canonical record.address = register) ∧
    ¬ Noted canonical register init plays

/-- What was noted went into the memory under the registers, or into another register. -/
def Mistaken : Prop :=
  Noted canonical register init plays ∧ ¬ Written canonical register init plays

variable {canonical register init plays}

/-- Notes and writes agree but for these two cases: a write of the play routine is always noted. -/
lemma noted_iff_written :
    (Noted canonical register init plays ↔ Written canonical register init plays) ↔
      ¬ Missed canonical register init plays ∧ ¬ Mistaken canonical register init plays := by
  constructor
  · intro agree
    refine ⟨?_, fun ⟨noted, unwritten⟩ => unwritten (agree.mp noted)⟩
    rintro ⟨⟨record, hrecord, reaches⟩, unnoted⟩
    exact unnoted (agree.mpr ⟨record, List.mem_append_left _ hrecord, reaches⟩)
  · rintro ⟨unmissed, unmistaken⟩
    constructor
    · intro noted
      by_contra unwritten
      exact unmistaken ⟨noted, unwritten⟩
    · rintro ⟨record, hrecord, shown, decodes⟩
      rcases List.mem_append.mp hrecord with early | late
      · by_contra unnoted
        exact unmissed ⟨⟨record, early, shown, decodes⟩, unnoted⟩
      · exact .inr ⟨record, late, decodes⟩

/-- Another call notes what it stores. -/
lemma noted_append {new : List StoreRecord} : Noted canonical register init (plays ++ new) ↔
    ((∃ record ∈ init ++ (plays ++ new), record.address = register) ∨
      ∃ record ∈ new, canonical record.address = register) ∨
        Noted canonical register init plays := by
  unfold Noted
  constructor
  · rintro (own | ⟨record, hrecord, decodes⟩)
    · exact .inl (.inl own)
    · rcases List.mem_append.mp hrecord with old | fresh
      · exact .inr (.inr ⟨record, old, decodes⟩)
      · exact .inl (.inr ⟨record, fresh, decodes⟩)
  · rintro ((own | ⟨record, fresh, decodes⟩) | ⟨record, hrecord, own⟩ | ⟨record, old, decodes⟩)
    · exact .inl own
    · exact .inr ⟨record, List.mem_append_right _ fresh, decodes⟩
    · refine .inl ⟨record, ?_, own⟩
      rw [← List.append_assoc]
      exact List.mem_append_left _ hrecord
    · exact .inr ⟨record, List.mem_append_left _ old, decodes⟩

end Stores

namespace Session

/-- The stores that a number of calls of the play routine make, in order. -/
def playStores (start : Session) : ℕ → List StoreRecord
  | 0 => []
  | n + 1 => start.playStores n ++ (start.after n).player.playStores

/-! ## What a session has seen -/

variable {setup : Setup} {start : Session} {init : List StoreRecord} {n : ℕ}

/-- What machine and sampler know after `n` calls that went through, of the stores that init and
these calls have made. -/
structure Watches (setup : Setup) (start : Session) (init : List StoreRecord) (n : ℕ) : Prop where
  /-- The observer looks at all chips. -/
  fitted : (start.after n).player.Fitted setup
  /-- The log reaches back to the start of init. -/
  wasWritten : ∀ address, (start.after n).player.machine.bus.wasWritten address = true ↔
    ∃ record ∈ init ++ start.playStores n, record.address = address
  /-- All observed stores are taken. -/
  observed : (start.after n).player.machine.bus.observed = #[]
  /-- The sampler looks at the chips of the header. -/
  bases : (start.after n).sampler.chips.map TrackedChip.base = setup.file.header.chipBases
  /-- After the first call the sampler remembers whether anything was noted. -/
  remembers : ∀ (index : ℕ) (chip : TrackedChip),
    (start.after n).sampler.chips[index]? = some chip →
      ∀ voice, (chip.voices.get voice).gate = .unset ↔ n = 0 ∨
        ¬ Noted setup.canonical (Chip.voiceRegister chip.base voice Chip.control) init
          (start.playStores n)

/-- The start of a session, after an init that went through. -/
lemma watches_start {player : Player} (reached : player.Reached setup) {subtune : UInt16}
    (hinit : (player.init subtune).result = .ok ()) (options : ImportOptions) :
    Watches setup (ofPlayer options (player.init subtune).state) (player.initStores subtune) 0 := by
  have leaves := Player.initLeaves hinit
  have fitted := reached.fitted.init subtune
  refine ⟨fitted, fun address => ?_, leaves.observed, ?_, fun index chip hchip voice => ?_⟩
  · refine (leaves.wasWritten address).trans ?_
    rw [playStores, List.append_nil]
  · have chips : (ofPlayer options (player.init subtune).state).sampler.chips =
        setup.file.header.chipBases.map fun base =>
          ⟨base, .replicate Chip.voiceCount .initial⟩ := by
      rw [← fitted.plays]
      rfl
    rw [Session.after, chips, List.map_map]
    exact List.map_id _
  · simp only [Session.after, ofPlayer, Sampler.new, List.getElem?_map,
      Option.map_eq_some_iff] at hchip
    obtain ⟨base, -, rfl⟩ := hchip
    have initial : ((Vector.replicate Chip.voiceCount VoiceHistory.initial).get voice).gate =
        .unset := by
      simp [Vector.get, VoiceHistory.initial]
    exact ⟨fun _ => .inl rfl, fun _ => initial⟩

/-! ## One call -/

/-- The memory that is sampled after a call. -/
def sampledMemory (session : Session) : BankedMemory :=
  session.played.player.machine.bus

/-- The row that is sampled after a call. -/
def sampledRow (session : Session) : Row :=
  (session.played.sampled session.taken).1

lemma canonical_eq {memory : BankedMemory}
    (bases : memory.sidBases = setup.file.header.chipBases) : memory.canonical = setup.canonical :=
  BankedMemory.canonical_congr bases

/-- What is sampled after a call that went through. -/
structure Samples (setup : Setup) (start : Session) (init : List StoreRecord) (n : ℕ) : Prop where
  fitted : (start.after n).played.player.Fitted setup
  shows : (start.after n).sampledMemory.banking.state.io = true
  wasWritten : ∀ address, (start.after n).sampledMemory.wasWritten address = true ↔
    ∃ record ∈ init ++ start.playStores (n + 1), record.address = address
  taken : ∀ base ∈ setup.file.header.chipBases, ∀ register, Chip.InBlock base register →
    ((∃ store ∈ (start.after n).taken,
        (start.after n).sampledMemory.canonical store.address = register) ↔
      ∃ record ∈ (start.after n).player.playStores, setup.canonical record.address = register)

lemma Watches.samples (h : Watches setup start init n)
    (succeeds : (start.after n).step.result = .ok ()) : Samples setup start init n := by
  set session := start.after n with hsession
  obtain ⟨count, hplay⟩ := play_ok succeeds
  obtain ⟨journaled, shows, -⟩ := Player.play_journaled hplay
  have fitted : session.played.player.Fitted setup := h.fitted.play.takeStores
  have canonical : session.sampledMemory.canonical = setup.canonical := canonical_eq fitted.sidBases
  have taken : session.taken = (session.player.playStores.filter fun record =>
      session.player.machine.bus.observes record.address).map StoreRecord.toStore := by
    have all : session.taken = _ := journaled.observed
    rw [all, h.observed]
    rfl
  refine ⟨fitted, shows, fun address => ?_, fun base hbase register block => ?_⟩
  · refine (journaled.wasWritten address).trans ?_
    rw [h.wasWritten, playStores, ← List.append_assoc, ← hsession]
    simp only [List.mem_append, or_and_right, exists_or]
  · rw [canonical, taken]
    constructor
    · rintro ⟨store, hstore, decodes⟩
      obtain ⟨record, hrecord, rfl⟩ := List.mem_map.mp hstore
      exact ⟨record, (List.mem_filter.mp hrecord).1, decodes⟩
    · rintro ⟨record, hrecord, decodes⟩
      -- What decodes into the chip lies within the window, so it was observed.
      have observes : session.player.machine.bus.observes record.address = true := by
        rw [BankedMemory.observes, h.fitted.window, Option.any_some]
        refine contains_chipWindow hbase ?_
        rw [canonical_eq h.fitted.sidBases, decodes]
        exact block
      exact ⟨record.toStore, List.mem_map_of_mem (List.mem_filter.mpr ⟨hrecord, observes⟩), decodes⟩

/-- A sign that the sample shows, or one that the sampler remembers: together, a note. -/
lemma Samples.touched_or_remembered_iff (h : Samples setup start init n) {base : UInt16}
    (hbase : base ∈ setup.file.header.chipBases) {register : UInt16}
    (block : Chip.InBlock base register) :
    (start.after n).sampledMemory.Touched (start.after n).taken register ∨
        ¬ (n = 0 ∨ ¬ Noted setup.canonical register init (start.playStores n)) ↔
      Noted setup.canonical register init (start.playStores (n + 1)) := by
  rw [BankedMemory.Touched, h.wasWritten, h.taken base hbase register block, playStores,
    noted_append, not_or, not_not]
  constructor
  · rintro (touched | ⟨-, noted⟩)
    · exact .inl touched
    · exact .inr noted
  · rintro (touched | noted)
    · exact .inl touched
    · by_cases first : n = 0
      · -- Before the first call only init can have been noted, and the log has its stores.
        subst first
        rcases noted with ⟨record, hrecord, own⟩ | ⟨_, none, -⟩
        · rw [playStores, List.append_nil] at hrecord
          exact .inl (.inl ⟨record, List.mem_append_left _ hrecord, own⟩)
        · cases none
      · exact .inr ⟨first, noted⟩

/-- The gates of a chip in a sample, and what the sampler remembers of them. -/
lemma Watches.sampled_gates (h : Watches setup start init n)
    (succeeds : (start.after n).step.result = .ok ()) {index : ℕ} {chip : TrackedChip}
    (hchip : (start.after n).sampler.chips[index]? = some chip) :
    ∃ state tracked, (start.after n).sampledRow.chips[index]? = some state ∧
      (start.after (n + 1)).sampler.chips[index]? = some tracked ∧ tracked.base = chip.base ∧
      ∀ voice : Fin Chip.voiceCount,
        let register := Chip.voiceRegister chip.base voice Chip.control
        (Noted setup.canonical register init (start.playStores (n + 1)) →
          (state.channels.get voice).gate =
              gateOf ((start.after n).sampledMemory.ioRegister register) ∧
            (tracked.voices.get voice).gate =
              gateOf ((start.after n).sampledMemory.ioRegister register)) ∧
        (¬ Noted setup.canonical register init (start.playStores (n + 1)) →
          (state.channels.get voice).gate = .unset ∧ (tracked.voices.get voice).gate = .unset) := by
  have samples := h.samples succeeds
  have hbase : chip.base ∈ setup.file.header.chipBases := by
    rw [← h.bases]
    exact List.mem_map_of_mem (List.mem_of_getElem? hchip)
  have legal := setup.file.header.legalBase_of_mem hbase
  obtain ⟨routing, state, tracked, hstate, htracked, base, sampled⟩ :=
    (start.after n).sampler.sample_chip (start.after n).sampledMemory (start.after n).taken
      (start.after n).calls (start.after n).time hchip
  refine ⟨state, tracked, hstate, ?_, base, fun voice => ?_⟩
  · rw [Session.after, step_ok succeeds]
    exact htracked
  · intro register
    obtain ⟨channel, remembered⟩ := sampled voice
    have own := Chip.isRegister_control legal voice
    rw [channel, remembered, ← BankedMemory.fetch_register legal own samples.shows]
    have notes := samples.touched_or_remembered_iff hbase own.inBlock
    have remembers := h.remembers index chip hchip voice
    constructor
    · intro noted
      refine SamplerSettings.gate_sampleVoice_of_touched _ _ _ _ _ _ _ ?_
      rcases notes.mpr noted with touched | seen
      · exact .inl touched
      · exact .inr (mt remembers.mp seen)
    · intro unnoted
      have neither := mt notes.mp unnoted
      rw [not_or, not_not] at neither
      exact SamplerSettings.gate_sampleVoice_of_untouched _ _ _ _ _ _ _ neither.1
        (remembers.mpr neither.2)

lemma Watches.step (h : Watches setup start init n)
    (succeeds : (start.after n).step.result = .ok ()) : Watches setup start init (n + 1) := by
  have samples := h.samples succeeds
  have next : start.after (n + 1) = (start.after n).played.append (start.after n).taken :=
    step_ok succeeds
  have bases : (start.after (n + 1)).sampler.chips.map TrackedChip.base =
      (start.after n).sampler.chips.map TrackedChip.base := by
    rw [next]
    change (((start.after n).sampler.chips.map _).map Prod.snd).map TrackedChip.base = _
    rw [List.map_map, List.map_map]
    rfl
  refine ⟨?_, ?_, ?_, bases.trans h.bases, fun index tracked htracked voice => ?_⟩
  · rw [next]
    exact samples.fitted
  · rw [next]
    exact samples.wasWritten
  · rw [next]
    rfl
  · obtain ⟨chip, hchip⟩ : ∃ chip, (start.after n).sampler.chips[index]? = some chip := by
      have length := congrArg List.length bases
      rw [List.length_map, List.length_map] at length
      obtain ⟨bound, -⟩ := List.getElem?_eq_some_iff.mp htracked
      exact ⟨_, List.getElem?_eq_getElem (length ▸ bound)⟩
    obtain ⟨state, tracked', -, htracked', base, gates⟩ := h.sampled_gates succeeds hchip
    obtain rfl : tracked' = tracked := Option.some.inj (htracked'.symm.trans htracked)
    obtain ⟨noted, unnoted⟩ := gates voice
    rw [base]
    constructor
    · intro unset
      refine .inr fun holds => gateOf_ne_unset _ ((noted holds).2.symm.trans unset)
    · rintro (never | none)
      · cases never
      · exact (unnoted none).2

/-- What machine and sampler know after any number of calls that went through. -/
lemma Watches.calls (h : Watches setup start init 0)
    (succeed : ∀ i < n, (start.after i).step.result = .ok ()) : Watches setup start init n := by
  induction n with
  | zero => exact h
  | succ n ih =>
    have before := ih fun i hi => succeed i (Nat.lt_succ_of_lt hi)
    exact before.step (succeed n (Nat.lt_succ_self n))

/-! ## Every call -/

/-- What a sampled gate should tell: that the register is unwritten, or else its gate bit. -/
def GateLaw (written : Prop) (gate : GateState) (control : UInt8) : Prop :=
  (gate = .unset ↔ ¬ written) ∧ (gate ≠ .unset → gate = gateOf control)

/-- A gate that follows the notes obeys the law where the notes follow the writes. -/
lemma gateLaw_iff {noted written : Prop} {gate : GateState} {control : UInt8}
    (unnoted : ¬ noted → gate = .unset) (follows : noted → gate = gateOf control) :
    GateLaw written gate control ↔ (noted ↔ written) := by
  have unset_iff : gate = .unset ↔ ¬ noted :=
    ⟨fun unset holds => gateOf_ne_unset control ((follows holds).symm.trans unset), unnoted⟩
  constructor
  · rintro ⟨law, -⟩
    exact not_iff_not.mp (unset_iff.symm.trans law)
  · intro agree
    refine ⟨unset_iff.trans (not_congr agree), fun set => follows ?_⟩
    by_contra none
    exact set (unnoted none)

/-- The gate of a voice in the sample of a call. -/
lemma sampled_gate {player : Player} (reached : player.Reached setup) {subtune : UInt16}
    (hinit : (player.init subtune).result = .ok ()) (options : ImportOptions) {call : ℕ}
    (succeed : ∀ i ≤ call,
      ((ofPlayer options (player.init subtune).state).after i).step.result = .ok ())
    (index : ℕ) (base : UInt16) (hbase : setup.file.header.chipBases[index]? = some base)
    (voice : Fin Chip.voiceCount) :
    let start := ofPlayer options (player.init subtune).state
    let register := Chip.voiceRegister base voice Chip.control
    let noted := Noted setup.canonical register (player.initStores subtune)
      (start.playStores (call + 1))
    ∃ chip, (start.after call).sampledRow.chips[index]? = some chip ∧
      (¬ noted → (chip.channels.get voice).gate = .unset) ∧
        (noted → (chip.channels.get voice).gate =
          gateOf ((start.after call).sampledMemory.ioRegister register)) := by
  intro start register noted
  have watches : Watches setup start (player.initStores subtune) call :=
    (watches_start reached hinit options).calls fun i hi => succeed i (Nat.le_of_lt hi)
  obtain ⟨chip, hchip, rfl⟩ : ∃ chip, (start.after call).sampler.chips[index]? = some chip ∧
      chip.base = base := by
    rw [← watches.bases, List.getElem?_map, Option.map_eq_some_iff] at hbase
    exact hbase
  obtain ⟨state, _, hstate, _, _, gates⟩ :=
    watches.sampled_gates (succeed call (Nat.le_refl _)) hchip
  obtain ⟨follows, unnoted⟩ := gates voice
  exact ⟨state, hstate, fun none => (unnoted none).1, fun holds => (follows holds).1⟩

/-- **A sampled gate follows the notes.**  Take a player that any calls have led to, an init that
goes through, and then calls of the play routine that all go through.  Each of them samples every
voice of every chip as unset while nothing is noted for the voice's control register, and from the
first note on by the register's gate bit.  So the gate tells whether the register was written,
unless a write of init was missed or a note is mistaken. -/
theorem sampled_gate_follows_notes {setup : Setup} {player : Player}
    (reached : player.Reached setup) (subtune : UInt16)
    (hinit : (player.init subtune).result = .ok ()) (options : ImportOptions) (call : ℕ)
    (succeed : ∀ i ≤ call,
      ((ofPlayer options (player.init subtune).state).after i).step.result = .ok ())
    (index : ℕ) (base : UInt16) (hbase : setup.file.header.chipBases[index]? = some base)
    (voice : Fin Chip.voiceCount) :
    let start := ofPlayer options (player.init subtune).state
    let session := start.after call
    let register := Chip.voiceRegister base voice Chip.control
    let control := session.sampledMemory.ioRegister register
    let noted := Noted setup.canonical register (player.initStores subtune)
      (start.playStores (call + 1))
    let written := Written setup.canonical register (player.initStores subtune)
      (start.playStores (call + 1))
    let missed := Missed setup.canonical register (player.initStores subtune)
      (start.playStores (call + 1))
    let mistaken := Mistaken setup.canonical register (player.initStores subtune)
      (start.playStores (call + 1))
    ∃ chip, session.sampledRow.chips[index]? = some chip ∧
      let gate := (chip.channels.get voice).gate
      (¬ noted → gate = .unset) ∧ (noted → gate = gateOf control) ∧
        (GateLaw written gate control ↔ ¬ missed ∧ ¬ mistaken) := by
  intro start session register control noted written missed mistaken
  obtain ⟨chip, hchip, unnoted, follows⟩ :=
    sampled_gate reached hinit options succeed index base hbase voice
  exact ⟨chip, hchip, unnoted, follows, (gateLaw_iff unnoted follows).trans noted_iff_written⟩

/-! ## A write that is not noted -/

/-- A tune whose init writes the first control register through a repetition of the chip, at
`$D424`, and whose play routine returns at once. -/
def repeatedWrite : Setup where
  file :=
    { header := { (default : Header) with
        version := 2, initAddress := 0x0200, playAddress := 0x0206, songs := 1, startSong := 1 }
      program := [0xA9, 0x41, 0x8D, 0x24, 0xD4, 0x60, 0x60]
      loadAddress := 0x0200 }
  region := .pal
  options := .default

namespace repeatedWrite

/-- The player of the tune. -/
def player : Player where
  setup := repeatedWrite
  machine := (Machine.powerOn repeatedWrite.loadedMemory).mapCpu fun cpu =>
    { cpu with exitPolicy := .whenStackEmpty repeatedWrite.options.stackWrapZone }
  timing := .initial

/-- The session of the tune. -/
def session : Session :=
  ofPlayer .default (player.init 1).state

lemma reached : player.Reached repeatedWrite :=
  .load (if_pos (by decide))

lemma init_ok : (player.init 1).result = .ok () :=
  eq_ok_of_isOk (by decide +kernel)

lemma step_ok : ∀ i ≤ 0, (session.after i).step.result = .ok () := by
  intro i hi
  rw [Nat.le_zero.mp hi]
  exact eq_ok_of_isOk (by decide +kernel)

lemma initStores_eq : player.initStores 1 = [⟨0xD424, 0x41, true⟩] := by
  decide +kernel

lemma playStores_eq : session.playStores 1 = [] := by
  decide +kernel

/-- The register is written, -/
lemma written : Written repeatedWrite.canonical 0xD404 (player.initStores 1)
    (session.playStores 1) := by
  rw [initStores_eq, playStores_eq, Written]
  decide +kernel

/-- and nothing is noted for it. -/
lemma not_noted : ¬ Noted repeatedWrite.canonical 0xD404 (player.initStores 1)
    (session.playStores 1) := by
  rw [initStores_eq, playStores_eq, Noted]
  decide +kernel

lemma register_eq :
    Chip.voiceRegister 0xD400 (0 : Fin Chip.voiceCount) Chip.control = 0xD404 := by decide

/-- The theorem at this tune: the written register is sampled as unset. -/
theorem sampled_unset : ∃ chip, session.sampledRow.chips[0]? = some chip ∧
    (chip.channels.get 0).gate = .unset ∧
    Written repeatedWrite.canonical 0xD404 (player.initStores 1) (session.playStores 1) := by
  obtain ⟨chip, hchip, unnoted, -, -⟩ := sampled_gate_follows_notes reached 1 init_ok .default 0
    step_ok 0 0xD400 rfl 0
  rw [register_eq] at unnoted
  exact ⟨chip, hchip, unnoted not_noted, written⟩

end repeatedWrite

/-- **The law does not hold of every run.**  A register that init wrote through a repetition of the
chip is sampled as if it were unwritten. -/
theorem gate_law_fails :
    ¬ ∀ (setup : Setup) (player : Player), player.Reached setup → ∀ subtune : UInt16,
      (player.init subtune).result = .ok () → ∀ (options : ImportOptions) (call : ℕ),
      (∀ i ≤ call,
        ((ofPlayer options (player.init subtune).state).after i).step.result = .ok ()) →
      ∀ (index : ℕ) (base : UInt16), setup.file.header.chipBases[index]? = some base →
      ∀ (voice : Fin Chip.voiceCount) (chip : ChipState),
      ((ofPlayer options (player.init subtune).state).after call).sampledRow.chips[index]? =
        some chip →
      GateLaw
        (Written setup.canonical (Chip.voiceRegister base voice Chip.control)
          (player.initStores subtune)
          ((ofPlayer options (player.init subtune).state).playStores (call + 1)))
        (chip.channels.get voice).gate
        (((ofPlayer options (player.init subtune).state).after call).sampledMemory.ioRegister
          (Chip.voiceRegister base voice Chip.control)) := by
  intro law
  obtain ⟨chip, hchip, unnoted, -⟩ := sampled_gate repeatedWrite.reached repeatedWrite.init_ok
    .default repeatedWrite.step_ok 0 0xD400 rfl 0
  rw [repeatedWrite.register_eq] at unnoted
  have obeys := law _ _ repeatedWrite.reached 1 repeatedWrite.init_ok .default 0
    repeatedWrite.step_ok 0 0xD400 rfl 0 chip hchip
  rw [repeatedWrite.register_eq] at obeys
  exact obeys.1.mp (unnoted repeatedWrite.not_noted) repeatedWrite.written

end Session

end SidScore
