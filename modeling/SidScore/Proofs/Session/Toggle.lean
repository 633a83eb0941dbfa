import SidScore.Proofs.Player.History
import SidScore.Proofs.Session.Gate

/-!
# When a gate toggles twice

A voice is marked in a sample if its gate changed twice or more within the call.  What changed is
told by the register itself: `Player.gateToggles` follows its gate bit through the memories that
the stores of the call leave.

The sampler has not seen these memories.  It starts from the gate that it remembers, and goes
through the stores that it was given.  That comes to the same if the remembered gate is that of the
register and every store given reached the register.  Three things stand in the way.  A store that
decodes to the register may have been made while the registers did not show (`Hidden`); it may be
left over from a call that failed; and before the first sample, or when what init wrote was missed,
the gate counts as closed while the register has it open.
-/

namespace SidScore

/-- The byte has the gate open. -/
def opensGate (control : UInt8) : Bool :=
  control &&& Chip.gateBit != 0

lemma gateOf_eq_on_iff (control : UInt8) : gateOf control = .on ↔ opensGate control = true := by
  unfold gateOf opensGate
  split
  next opened => simp [opened]
  next closed => simp [closed]

/-- A store that decodes to the register is hidden from it: the registers did not show. -/
def Hidden (canonical : UInt16 → UInt16) (register : UInt16) (stores : List StoreRecord) : Prop :=
  ∃ record ∈ stores, record.shown = false ∧ canonical record.address = register

/-! ## What the register does -/

/-- The changes of a bit of a register are those that the stores which reach it make. -/
lemma gateChanges_bytesHeld {canonical : UInt16 → UInt16} {register : UInt16}
    (bit : UInt8 → Bool) (held : UInt8) (journal : List StoreRecord) :
    gateChanges (bit held) ((bytesHeld canonical register held journal).map bit) =
      gateChanges (bit held)
        ((journal.filter fun record => record.reaches canonical register).map
          fun record => bit record.value) := by
  induction journal generalizing held with
  | nil => rfl
  | cons record rest ih =>
    rw [bytesHeld, List.map_cons, gateChanges, ih, List.filter_cons, StoreRecord.leaves]
    split
    · rw [List.map_cons, gateChanges]
    · rw [if_pos rfl, Nat.zero_add]

namespace Player

variable {setup : Setup} {player : Player}

/-- The memories that the stores of the next call of the play routine leave, in order. -/
def playMemories (player : Player) : List BankedMemory :=
  match player.timing.playAddress with
  | none => []
  | some address =>
    (enterPlay player.setup address player.machine).memories .play
      player.setup.options.instructionLimit

/-- How often the gate bit of a register changes during the next call of the play routine. -/
def gateToggles (player : Player) (register : UInt16) : ℕ :=
  gateChanges (opensGate (player.machine.bus.ioRegister register))
    (player.playMemories.map fun memory => opensGate (memory.ioRegister register))

/-- The control registers of the header's chips are connected. -/
lemma Fitted.connected (h : player.Fitted setup) {base : UInt16}
    (hbase : base ∈ setup.file.header.chipBases) (voice : Fin Chip.voiceCount) :
    player.machine.bus.Connected (Chip.voiceRegister base voice Chip.control) :=
  h.connected_register hbase
    (Chip.isRegister_control (setup.file.header.legalBase_of_mem hbase) voice)

lemma gateToggles_eq {register : UInt16} (connected : player.machine.bus.Connected register) :
    player.gateToggles register =
      gateChanges (opensGate (player.machine.bus.ioRegister register))
        ((player.playStores.filter fun record =>
          record.reaches player.machine.bus.canonical register).map
            fun record => opensGate record.value) := by
  unfold gateToggles playMemories playStores
  cases player.timing.playAddress with
  | none => rfl
  | some address =>
    set machine := enterPlay player.setup address player.machine with hmachine
    have bases : machine.bus.sidBases = player.machine.bus.sidBases :=
      (Journaled.bankForPlay player.setup address player.machine.bus).sidBases
    have held : machine.bus.ioRegister register = player.machine.bus.ioRegister register :=
      BankedMemory.ioRegister_bankForPlay player.setup address
    have states := machine.register_memories .play player.setup.options.instructionLimit
      (connected.of_same bases)
    rw [held, BankedMemory.canonical_congr bases] at states
    dsimp only
    rw [← gateChanges_bytesHeld, ← states, List.map_map]
    rfl

end Player

/-! ## What the sampler makes of the stores -/

/-- The gate bits that stores carry to a register, whatever showed there. -/
def gateBits (canonical : UInt16 → UInt16) (register : UInt16) (stores : List Store) : List Bool :=
  (stores.filter fun store => canonical store.address == register).map
    fun store => opensGate store.value

section Stores

variable {canonical : UInt16 → UInt16} {register : UInt16}

lemma gateBits_append (early late : List Store) : gateBits canonical register (early ++ late) =
    gateBits canonical register early ++ gateBits canonical register late := by
  rw [gateBits, List.filter_append, List.map_append]
  rfl

lemma gateBits_eq_nil {stores : List Store}
    (h : ∀ store ∈ stores, canonical store.address ≠ register) :
    gateBits canonical register stores = [] := by
  rw [gateBits, List.map_eq_nil_iff, List.filter_eq_nil_iff]
  intro store hstore decodes
  exact h store hstore (beq_iff_eq.mp decodes)

/-- Leaving out stores to other registers changes nothing. -/
lemma gateBits_filter {keep : StoreRecord → Bool} {journal : List StoreRecord}
    (h : ∀ record ∈ journal, canonical record.address = register → keep record = true) :
    gateBits canonical register ((journal.filter keep).map StoreRecord.toStore) =
      gateBits canonical register (journal.map StoreRecord.toStore) := by
  simp only [gateBits, List.filter_map, List.map_map, List.filter_filter]
  congr 1
  refine List.filter_congr fun record hrecord => ?_
  have kept := h record hrecord
  cases decodes : canonical record.address == register with
  | false => simp [StoreRecord.toStore, decodes]
  | true => simp [StoreRecord.toStore, decodes, kept (beq_iff_eq.mp decodes)]

/-- The stores that reach a register are those that decode to it, if none is hidden. -/
lemma gateBits_of_not_hidden {journal : List StoreRecord}
    (h : ¬ Hidden canonical register journal) :
    gateBits canonical register (journal.map StoreRecord.toStore) =
      (journal.filter fun record => record.reaches canonical register).map
        fun record => opensGate record.value := by
  simp only [gateBits, List.filter_map, List.map_map]
  have same : journal.filter ((fun store => canonical store.address == register) ∘
      StoreRecord.toStore) = journal.filter fun record => record.reaches canonical register := by
    refine List.filter_congr fun record hrecord => ?_
    cases decodes : canonical record.address == register with
    | false => simp [StoreRecord.toStore, StoreRecord.reaches, decodes]
    | true =>
      have shown : record.shown = true := by
        by_contra concealed
        exact h ⟨record, hrecord, by simpa using concealed, beq_iff_eq.mp decodes⟩
      simp [StoreRecord.toStore, StoreRecord.reaches, decodes, shown]
  rw [same]
  rfl

end Stores

lemma SamplerSettings.gateDoubleToggle_sampleVoice (settings : SamplerSettings)
    (memory : BankedMemory) (stores : List Store) (call : UInt64) (chip : TrackedChip)
    (routing : UInt8) (voice : Fin Chip.voiceCount) :
    (settings.sampleVoice memory stores call chip routing voice).1.gateDoubleToggle =
      decide (2 ≤ gateChanges (decide ((chip.voices.get voice).gate = .on))
        (gateBits memory.canonical (Chip.voiceRegister chip.base voice Chip.control) stores)) := by
  simp only [sampleVoice, track, BankedMemory.storesTo, List.map_map, gateBits]
  rfl

namespace Session

variable {setup : Setup}

/-- The sampler remembers the gate of a voice as open. -/
def remembers (session : Session) (index : ℕ) (voice : Fin Chip.voiceCount) : Bool :=
  session.sampler.chips[index]?.any fun chip => decide ((chip.voices.get voice).gate = .on)

/-- The stores of calls that failed, which the sampler has not seen. -/
def pending (session : Session) : List Store :=
  session.player.machine.bus.observed.toList

/-- Machine and sampler look at the chips of the header. -/
structure Looks (setup : Setup) (session : Session) : Prop where
  fitted : session.player.Fitted setup
  bases : session.sampler.chips.map TrackedChip.base = setup.file.header.chipBases

/-- They go on doing so, whatever becomes of a call. -/
lemma Looks.step {session : Session} (h : Looks setup session) :
    Looks setup session.step.state := by
  rcases session.step_cases with ⟨fault, -, -, state⟩ | ⟨count, -, -, state⟩
  · rw [state]
    exact ⟨h.fitted.play, h.bases⟩
  · rw [state]
    refine ⟨h.fitted.play.takeStores, Eq.trans ?_ h.bases⟩
    change ((session.sampler.chips.map _).map Prod.snd).map TrackedChip.base = _
    rw [List.map_map, List.map_map]
    rfl

lemma looks_start {player : Player} (fitted : player.Fitted setup) (options : ImportOptions) :
    Looks setup (ofPlayer options player) := by
  refine ⟨fitted, ?_⟩
  have chips : (ofPlayer options player).sampler.chips = setup.file.header.chipBases.map fun base =>
      ⟨base, .replicate Chip.voiceCount .initial⟩ := by
    rw [← fitted.plays]
    rfl
  rw [chips, List.map_map]
  exact List.map_id _

lemma Looks.after {start : Session} (h : Looks setup start) (n : ℕ) :
    Looks setup (start.after n) := by
  induction n with
  | zero => exact h
  | succ n ih => exact ih.step

/-- The sampler is given what is pending and the stores of the call that were observed. -/
lemma taken_eq {session : Session} (succeeds : session.step.result = .ok ()) :
    session.taken = session.pending ++ (session.player.playStores.filter fun record =>
      session.player.machine.bus.observes record.address).map StoreRecord.toStore := by
  obtain ⟨count, hplay⟩ := play_ok succeeds
  exact (Player.play_journaled hplay).1.observed

lemma Looks.sampled_flag {session : Session} (h : Looks setup session)
    (succeeds : session.step.result = .ok ()) {index : ℕ} {base : UInt16}
    (hbase : setup.file.header.chipBases[index]? = some base) (voice : Fin Chip.voiceCount) :
    ∃ chip, session.sampledRow.chips[index]? = some chip ∧
      (chip.channels.get voice).gateDoubleToggle = decide (2 ≤ gateChanges
        (session.remembers index voice) (gateBits setup.canonical
          (Chip.voiceRegister base voice Chip.control)
          (session.pending ++ session.player.playStores.map StoreRecord.toStore))) := by
  obtain ⟨chip, hchip, rfl⟩ := Sampler.exists_chip h.bases hbase
  have member : chip.base ∈ setup.file.header.chipBases := List.mem_of_getElem? hbase
  obtain ⟨routing, state, _, hstate, _, _, hsampled⟩ :=
    session.sampler.sample_chip session.sampledMemory session.taken session.calls session.time hchip
  have remembers : session.remembers index voice =
      decide ((chip.voices.get voice).gate = .on) := by
    rw [Session.remembers, hchip, Option.any_some]
  have canonical : session.sampledMemory.canonical = setup.canonical :=
    canonical_eq h.fitted.play.takeStores.sidBases
  -- What decodes into the chip lies within the window, so the observer has listed it.
  have observed : ∀ record ∈ session.player.playStores,
      setup.canonical record.address = Chip.voiceRegister chip.base voice Chip.control →
        session.player.machine.bus.observes record.address = true := by
    intro record _ decodes
    rw [BankedMemory.observes, h.fitted.window, Option.any_some]
    refine contains_chipWindow member ?_
    rw [canonical_eq h.fitted.sidBases, decodes]
    exact (Chip.isRegister_control (setup.file.header.legalBase_of_mem member) voice).inBlock
  refine ⟨state, hstate, ?_⟩
  rw [(hsampled voice).1, SamplerSettings.gateDoubleToggle_sampleVoice, canonical, remembers,
    taken_eq succeeds, gateBits_append, gateBits_append, gateBits_filter observed]

/-! ## Every call -/

/-- Where all stores given reached the register and the remembered gate is its own, the sampler
counts what the register does. -/
lemma gateChanges_eq_gateToggles {session : Session} (h : Looks setup session) {base : UInt16}
    (hbase : base ∈ setup.file.header.chipBases) (voice : Fin Chip.voiceCount) :
    let register := Chip.voiceRegister base voice Chip.control
    ¬ Hidden setup.canonical register session.player.playStores →
    (∀ store ∈ session.pending, setup.canonical store.address ≠ register) →
    gateChanges (opensGate (session.player.machine.bus.ioRegister register))
        (gateBits setup.canonical register
          (session.pending ++ session.player.playStores.map StoreRecord.toStore)) =
      session.player.gateToggles register := by
  intro register unhidden elsewhere
  rw [Player.gateToggles_eq (h.fitted.connected hbase voice), canonical_eq h.fitted.sidBases,
    gateBits_append, gateBits_eq_nil elsewhere, List.nil_append, gateBits_of_not_hidden unhidden]

lemma Watches.pending_eq_nil {start : Session} {init : List StoreRecord} {n : ℕ}
    (watches : Watches setup start init n) : (start.after n).pending = [] :=
  congrArg Array.toList watches.observed

/-- After calls that all went through, the sampler remembers a gate as open if the register has it
open, a call was made and something was noted. -/
lemma Watches.remembers_iff {start : Session} {init : List StoreRecord} {n : ℕ}
    (watches : Watches setup start init 0)
    (succeed : ∀ i < n, (start.after i).step.result = .ok ()) {index : ℕ} {base : UInt16}
    (hbase : setup.file.header.chipBases[index]? = some base) (voice : Fin Chip.voiceCount) :
    let register := Chip.voiceRegister base voice Chip.control
    (start.after n).remembers index voice = true ↔
      n ≠ 0 ∧ Noted setup.canonical register init (start.playStores n) ∧
        opensGate ((start.after n).player.machine.bus.ioRegister register) = true := by
  intro register
  have remembered (session : Session) {chip : TrackedChip}
      (hchip : session.sampler.chips[index]? = some chip) :
      session.remembers index voice = true ↔ (chip.voices.get voice).gate = .on := by
    rw [Session.remembers, hchip, Option.any_some, decide_eq_true_iff]
  cases n with
  | zero =>
    obtain ⟨chip, hchip, -⟩ := Sampler.exists_chip watches.bases hbase
    have unset := (watches.remembers index chip hchip voice).mpr (.inl rfl)
    rw [remembered _ hchip, unset]
    simp
  | succ k =>
    have before := watches.calls fun i hi => succeed i (Nat.lt_succ_of_lt hi)
    have last := succeed k (Nat.lt_succ_self k)
    obtain ⟨chip, hchip, rfl⟩ := Sampler.exists_chip before.bases hbase
    obtain ⟨_, after, _, hafter, _, gates⟩ := before.sampled_gates last hchip
    obtain ⟨follows, unnoted⟩ := gates voice
    have same : (start.after (k + 1)).player.machine.bus = (start.after k).sampledMemory := by
      rw [Session.after, step_ok last]
      rfl
    rw [remembered _ hafter, same]
    by_cases noted : Noted setup.canonical register init (start.playStores (k + 1))
    · rw [(follows noted).2, gateOf_eq_on_iff]
      simp [noted, register]
    · rw [(unnoted noted).2]
      simp [noted]

/-- **When a gate is marked as toggled.**  Take a player that any calls have led to, an init that
goes through, and any calls of the play routine after it, failing ones included.  In the sample of
a call that goes through, a voice is marked if the gate bits given to its control register change
twice or more from the remembered gate.  How often the register's own gate bit changes, the stores
that reach it tell, from the gate that it has.  So the mark is right if no store was hidden, none
was left over, and the remembered gate is the register's.  Nothing is left over while all calls go
through, and then the gate is remembered as open only from the second call on, and only if it was
noted. -/
theorem sampled_toggle {player : Player} (reached : player.Reached setup) (subtune : UInt16)
    (hinit : (player.init subtune).result = .ok ()) (options : ImportOptions) (call : ℕ)
    (succeeds : ((ofPlayer options (player.init subtune).state).after call).step.result = .ok ())
    (index : ℕ) (base : UInt16) (hbase : setup.file.header.chipBases[index]? = some base)
    (voice : Fin Chip.voiceCount) :
    let start := ofPlayer options (player.init subtune).state
    let session := start.after call
    let register := Chip.voiceRegister base voice Chip.control
    let opened := opensGate (session.player.machine.bus.ioRegister register)
    let stores := session.player.playStores
    let toggles := session.player.gateToggles register
    ∃ chip, session.sampledRow.chips[index]? = some chip ∧
      let marked := (chip.channels.get voice).gateDoubleToggle
      (marked = true ↔ 2 ≤ gateChanges (session.remembers index voice)
        (gateBits setup.canonical register
          (session.pending ++ stores.map StoreRecord.toStore))) ∧
      toggles = gateChanges opened
        ((stores.filter fun record => record.reaches setup.canonical register).map
          fun record => opensGate record.value) ∧
      (¬ Hidden setup.canonical register stores →
        (∀ store ∈ session.pending, setup.canonical store.address ≠ register) →
        session.remembers index voice = opened → (marked = true ↔ 2 ≤ toggles)) ∧
      ((∀ i < call, (start.after i).step.result = .ok ()) → session.pending = [] ∧
        (session.remembers index voice = true ↔
          call ≠ 0 ∧ Noted setup.canonical register (player.initStores subtune)
            (start.playStores call) ∧ opened = true)) := by
  intro start session register opened stores toggles
  have member : base ∈ setup.file.header.chipBases := List.mem_of_getElem? hbase
  have looks : Looks setup session := (looks_start (reached.init subtune).fitted options).after call
  obtain ⟨chip, hchip, flag⟩ := looks.sampled_flag succeeds hbase voice
  rw [Bool.eq_iff_iff, decide_eq_true_iff] at flag
  refine ⟨chip, hchip, flag, ?_, fun unhidden elsewhere current => ?_, fun succeed => ?_⟩
  · have connected := looks.fitted.connected member voice
    rw [← canonical_eq looks.fitted.sidBases]
    exact Player.gateToggles_eq connected
  · have counted : gateChanges opened (gateBits setup.canonical register
        (session.pending ++ stores.map StoreRecord.toStore)) = toggles :=
      gateChanges_eq_gateToggles looks member voice unhidden elsewhere
    rw [current, counted] at flag
    exact flag
  · have watches := watches_start reached hinit options
    exact ⟨(watches.calls succeed).pending_eq_nil, watches.remembers_iff succeed hbase voice⟩

/-! ## A toggle under the registers -/

/-- A tune whose init closes the first gate, and whose play routine stores an open and a closed gate
while plain memory shows in the place of the registers. -/
def concealedToggle : Setup where
  file :=
    { header := { (default : Header) with
        version := 2, initAddress := 0x0200, playAddress := 0x0206, songs := 1, startSong := 1 }
      program := [0xA9, 0x40, 0x8D, 0x04, 0xD4, 0x60,
        0xA9, 0x34, 0x85, 0x01, 0xA9, 0x41, 0x8D, 0x04, 0xD4, 0xA9, 0x40, 0x8D, 0x04, 0xD4, 0x60]
      loadAddress := 0x0200 }
  region := .pal
  options := .default

namespace concealedToggle

/-- The player of the tune. -/
def player : Player where
  setup := concealedToggle
  machine := (Machine.powerOn concealedToggle.loadedMemory).mapCpu fun cpu =>
    { cpu with exitPolicy := .whenStackEmpty concealedToggle.options.stackWrapZone }
  timing := .initial

/-- The session of the tune. -/
def session : Session :=
  ofPlayer .default (player.init 1).state

lemma reached : player.Reached concealedToggle :=
  .load (if_pos (by decide))

lemma init_ok : (player.init 1).result = .ok () :=
  eq_ok_of_isOk (by decide +kernel)

lemma step_ok : session.step.result = .ok () :=
  eq_ok_of_isOk (by decide +kernel)

lemma playStores_eq : session.player.playStores =
    [⟨0x0001, 0x34, true⟩, ⟨0xD404, 0x41, false⟩, ⟨0xD404, 0x40, false⟩] := by
  decide +kernel

lemma register_eq :
    Chip.voiceRegister 0xD400 (0 : Fin Chip.voiceCount) Chip.control = 0xD404 := by decide

lemma base_eq : concealedToggle.file.header.chipBases[0]? = some 0xD400 := rfl

lemma looks : Looks concealedToggle session :=
  looks_start (reached.init 1).fitted .default

lemma watches : Watches concealedToggle session (player.initStores 1) 0 :=
  watches_start reached init_ok .default

-- The sampler starts from a closed gate, and is given two changes of it.
lemma remembers_eq : session.remembers 0 0 = false := by
  rw [Bool.eq_false_iff]
  intro opened
  exact ((watches.remembers_iff (fun i earlier => absurd earlier (Nat.not_lt_zero i)) base_eq 0).mp
    opened).1 rfl

lemma gateBits_eq : gateBits concealedToggle.canonical 0xD404
    (session.pending ++ session.player.playStores.map StoreRecord.toStore) = [true, false] := by
  have pending : session.pending = [] := watches.pending_eq_nil
  rw [pending, playStores_eq]
  decide +kernel

lemma reaching_eq : (session.player.playStores.filter fun record =>
    record.reaches concealedToggle.canonical 0xD404) = [] := by
  rw [playStores_eq]
  decide +kernel

/-- The register sees none of them. -/
lemma gateToggles_eq_zero : session.player.gateToggles 0xD404 = 0 := by
  have connected := looks.fitted.connected (List.mem_of_getElem? base_eq) 0
  rw [register_eq] at connected
  rw [Player.gateToggles_eq connected, canonical_eq looks.fitted.sidBases, reaching_eq]
  rfl

/-- The theorem at this tune: the voice is marked, and its gate did not change. -/
theorem marked_unchanged : ∃ chip, session.sampledRow.chips[0]? = some chip ∧
    (chip.channels.get 0).gateDoubleToggle = true ∧ session.player.gateToggles 0xD404 = 0 := by
  obtain ⟨chip, hchip, marked, -, -, -⟩ := sampled_toggle reached 1 init_ok .default 0 step_ok 0
    0xD400 base_eq 0
  refine ⟨chip, hchip, marked.mpr ?_, gateToggles_eq_zero⟩
  rw [register_eq]
  change 2 ≤ gateChanges (session.remembers 0 0) (gateBits concealedToggle.canonical 0xD404
    (session.pending ++ session.player.playStores.map StoreRecord.toStore))
  rw [remembers_eq, gateBits_eq]
  decide

end concealedToggle

/-- **Marks and changes differ.**  A voice is marked though its gate did not change, because stores
into the memory under the registers count. -/
theorem toggle_law_fails :
    ¬ ∀ (setup : Setup) (player : Player), player.Reached setup → ∀ subtune : UInt16,
      (player.init subtune).result = .ok () → ∀ (options : ImportOptions) (call : ℕ),
      (∀ i ≤ call,
        ((ofPlayer options (player.init subtune).state).after i).step.result = .ok ()) →
      ∀ (index : ℕ) (base : UInt16), setup.file.header.chipBases[index]? = some base →
      ∀ (voice : Fin Chip.voiceCount) (chip : ChipState),
      ((ofPlayer options (player.init subtune).state).after call).sampledRow.chips[index]? =
        some chip →
      ((chip.channels.get voice).gateDoubleToggle = true ↔
        2 ≤ ((ofPlayer options (player.init subtune).state).after call).player.gateToggles
          (Chip.voiceRegister base voice Chip.control)) := by
  intro law
  obtain ⟨chip, hchip, flag⟩ := concealedToggle.looks.sampled_flag concealedToggle.step_ok
    concealedToggle.base_eq 0
  rw [concealedToggle.register_eq, concealedToggle.remembers_eq,
    concealedToggle.gateBits_eq] at flag
  have steps : ∀ i ≤ 0, (concealedToggle.session.after i).step.result = .ok () := by
    intro i hi
    rw [Nat.le_zero.mp hi]
    exact concealedToggle.step_ok
  have changed := (law _ _ concealedToggle.reached 1 concealedToggle.init_ok .default 0 steps 0
    0xD400 concealedToggle.base_eq 0 chip hchip).mp flag
  rw [concealedToggle.register_eq] at changed
  have unchanged : (concealedToggle.session.after 0).player.gateToggles 0xD404 = 0 :=
    concealedToggle.gateToggles_eq_zero
  exact absurd (unchanged ▸ changed) (by decide)

end Session

end SidScore
