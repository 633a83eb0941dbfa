import SidScore.Proofs.Player.Calls
import SidScore.Proofs.Processor.Running
import SidScore.Proofs.Session.Steps

/-!
# The limit only cuts off

The limit on instructions enters an import in two places: in the call of init, and in every call of
the play routine.  Nothing else looks at it.  So an import that succeeds under one limit makes the
same calls with the same results under every larger one, and differs in nothing but the limit that
its player carries, `Session.withLimit`.
-/

namespace SidScore

/-- The same tune and the same way to play it, under another limit. -/
def Setup.withLimit (setup : Setup) (limit : ℕ) : Setup :=
  { setup with options := { setup.options with instructionLimit := limit } }

/-- The same options with another limit on instructions. -/
def ImportOptions.withLimit (options : ImportOptions) (limit : ℕ) : ImportOptions :=
  { options with player := { options.player with instructionLimit := limit } }

def Reply.withState {σ τ α : Type} (reply : Reply σ α) (f : σ → τ) : Reply τ α :=
  ⟨reply.result, f reply.state, reply.notices⟩

namespace Player

def withLimit (limit : ℕ) (player : Player) : Player :=
  { player with setup := player.setup.withLimit limit }

variable {player : Player} {limit : ℕ}

/-- What init has revealed is taken over whatever the limit. -/
lemma settle_withLimit (setup : Setup) (machine : Machine BankedMemory) (timing : Timing)
    (notices : List Notice) (limit : ℕ) :
    settle (setup.withLimit limit) machine timing notices =
      (settle setup machine timing notices).withState (withLimit limit) := by
  have same : (setup.withLimit limit).playAddress? machine.bus = setup.playAddress? machine.bus :=
    rfl
  unfold settle
  dsimp only
  rw [same]
  cases setup.playAddress? machine.bus with
  | some address => rfl
  | none => rfl

lemma load_withLimit (setup : Setup) (limit : ℕ) :
    load (setup.withLimit limit) = (load setup).map (withLimit limit) := by
  have same : (setup.withLimit limit).fits = setup.fits := rfl
  unfold load
  rw [same]
  split
  · rfl
  · rfl

lemma setup_load {setup : Setup} (h : load setup = .ok player) : player.setup = setup := by
  unfold load at h
  split at h
  · cases h
    rfl
  · cases h

lemma init_withLimit {subtune : UInt16} (h : (player.init subtune).result = .ok ())
    (larger : player.setup.options.instructionLimit ≤ limit) :
    (player.withLimit limit).init subtune =
      (player.init subtune).withState (withLimit limit) := by
  obtain ⟨setup, machine, timing⟩ := player
  cases hcheck : setup.file.checkSubtune subtune with
  | error fault => simp only [init, hcheck, reduceCtorEq] at h
  | ok _ =>
    have hcheck' : (setup.withLimit limit).file.checkSubtune subtune = .ok () := hcheck
    have entered : enterInit (setup.withLimit limit) subtune machine =
      enterInit setup subtune machine := rfl
    simp only [init, withLimit, hcheck, hcheck', entered] at h ⊢
    cases hrun : (enterInit setup subtune machine).runRoutine .init
        setup.options.instructionLimit with
    | mk result left =>
      cases result with
      | error fault => simp only [hrun, reduceCtorEq] at h
      | ok run =>
        have ends : ((enterInit setup subtune machine).runRoutine .init
          setup.options.instructionLimit).1 = .ok run := congrArg Prod.fst hrun
        have same := Machine.runRoutine_of_le ends larger
        rw [hrun] at same
        simp only [Setup.withLimit] at same ⊢
        rw [same]
        exact settle_withLimit setup left timing _ limit

lemma play_withLimit {count : ℕ} (h : player.play.result = .ok count)
    (larger : player.setup.options.instructionLimit ≤ limit) :
    (player.withLimit limit).play = player.play.withState (withLimit limit) := by
  obtain ⟨setup, machine, timing⟩ := player
  cases haddress : timing.playAddress with
  | none => simp only [play, haddress, reduceCtorEq] at h
  | some address =>
    have entered : enterPlay (setup.withLimit limit) address machine =
      enterPlay setup address machine := rfl
    simp only [play, withLimit, haddress, entered] at h ⊢
    cases hrun : (enterPlay setup address machine).runRoutine .play
        setup.options.instructionLimit with
    | mk result left =>
      cases result with
      | error fault => simp only [hrun, reduceCtorEq] at h
      | ok run =>
        have ends : ((enterPlay setup address machine).runRoutine .play
          setup.options.instructionLimit).1 = .ok run := congrArg Prod.fst hrun
        have same := Machine.runRoutine_of_le ends larger
        rw [hrun] at same
        simp only [Setup.withLimit] at same ⊢
        rw [same]
        rfl

end Player

namespace Session

def withLimit (limit : ℕ) (session : Session) : Session :=
  { session with player := session.player.withLimit limit }

variable {session : Session} {data : List UInt8} {subtune : UInt16} {options : ImportOptions}
  {limit : ℕ}

/-- The limit under which a session calls. -/
def callLimit (session : Session) : ℕ :=
  session.player.setup.options.instructionLimit

/-! ## Starting -/

lemma setupOf_withLimit (data : List UInt8) (options : ImportOptions) (limit : ℕ) :
    setupOf data (options.withLimit limit) = (setupOf data options).map (·.withLimit limit) := by
  have duration : (options.withLimit limit).checkDuration = options.checkDuration := rfl
  simp only [setupOf, duration]
  cases options.checkDuration with
  | error fault => rfl
  | ok _ =>
    cases TuneFile.parse data with
    | error fault => rfl
    | ok file => rfl

lemma options_setupOf {setup : Setup} (h : setupOf data options = .ok setup) :
    setup.options = options.player := by
  simp only [setupOf] at h
  cases hduration : options.checkDuration with
  | error fault =>
    rw [hduration] at h
    cases h
  | ok _ =>
    cases hparse : TuneFile.parse data with
    | error fault =>
      rw [hduration, hparse] at h
      cases h
    | ok file =>
      rw [hduration, hparse] at h
      cases h
      rfl

/-- What a session that starts was made of. -/
lemma exists_of_start (h : (start data subtune options).1 = .ok session) :
    ∃ setup player, setupOf data options = .ok setup ∧ Player.load setup = .ok player ∧
      (player.init subtune).result = .ok () ∧
      session = ofPlayer options (player.init subtune).state ∧
      (start data subtune options).2 =
        setupNotices data options ++ Player.loadNotices setup ++ (player.init subtune).notices ++
          [session.readyNotice subtune] := by
  unfold start at h ⊢
  cases hsetup : setupOf data options with
  | error fault => simp only [hsetup, reduceCtorEq] at h
  | ok setup =>
    cases hload : Player.load setup with
    | error fault => simp only [hsetup, hload, reduceCtorEq] at h
    | ok player =>
      cases hinit : (player.init subtune).result with
      | error fault => simp only [hsetup, hload, hinit, reduceCtorEq] at h
      | ok _ =>
        simp only [hsetup, hload, hinit] at h ⊢
        cases h
        exact ⟨setup, player, rfl, hload, hinit, rfl, rfl⟩

lemma start_withLimit (h : (start data subtune options).1 = .ok session)
    (larger : options.player.instructionLimit ≤ limit) :
    start data subtune (options.withLimit limit) =
      (.ok (session.withLimit limit), (start data subtune options).2) := by
  obtain ⟨setup, player, hsetup, hload, hinit, rfl, notices⟩ := exists_of_start h
  have limited : player.setup.options.instructionLimit ≤ limit := by
    rw [Player.setup_load hload, options_setupOf hsetup]
    exact larger
  rw [notices, start, setupOf_withLimit, hsetup]
  simp only [Except.map, Player.load_withLimit, hload, Player.init_withLimit hinit limited,
    Reply.withState, hinit]
  rfl

lemma callLimit_start (h : (start data subtune options).1 = .ok session) :
    session.callLimit = options.player.instructionLimit := by
  obtain ⟨setup, player, hsetup, hload, hinit, rfl, -⟩ := exists_of_start h
  have settled : (player.init subtune).state.setup = setup :=
    (Player.initLeaves hinit).setup.trans (Player.setup_load hload)
  rw [← options_setupOf hsetup, ← settled]
  rfl

/-! ## Going on -/

lemma step_withLimit (h : session.step.result = .ok ()) (larger : session.callLimit ≤ limit) :
    (session.withLimit limit).step = session.step.withState (withLimit limit) := by
  obtain ⟨count, hplay⟩ := play_ok h
  have same : (session.withLimit limit).player.play =
    session.player.play.withState (Player.withLimit limit) := Player.play_withLimit hplay larger
  unfold step
  simp only [withLimit] at same ⊢
  rw [same]
  generalize session.player.play = reply at hplay ⊢
  obtain ⟨result, player, notices⟩ := reply
  obtain rfl : result = .ok count := hplay
  rfl

lemma callLimit_step (h : session.step.result = .ok ()) :
    session.step.state.callLimit = session.callLimit := by
  obtain ⟨count, hplay⟩ := play_ok h
  have same := (Player.play_journaled hplay).2.2
  rw [step_ok h]
  exact congrArg (fun setup : Setup => setup.options.instructionLimit) same

lemma runFrom_withLimit (told : List Notice) (calls : ℕ) (larger : session.callLimit ≤ limit)
    (h : (session.runFrom told calls).result = .ok ()) :
    (session.withLimit limit).runFrom told calls =
      (session.runFrom told calls).withState (withLimit limit) := by
  induction calls generalizing session told with
  | zero => rfl
  | succ calls ih =>
    rcases hstep : session.step with ⟨result, next, notices⟩
    cases result with
    | error fault =>
      simp only [runFrom, hstep, reduceCtorEq] at h
    | ok _ =>
      have passes : session.step.result = .ok () := by rw [hstep]
      have same := step_withLimit passes larger
      have limited := callLimit_step passes
      rw [hstep] at same limited
      simp only [runFrom, hstep] at h ⊢
      rw [same]
      exact ih _ (limited.trans_le larger) h

end Session

/-! ## Whole imports -/

lemma importTune_withLimit {data : List UInt8} {subtune : UInt16} {options : ImportOptions}
    {tune : ImportedTune} {limit : ℕ} (h : (importTune data subtune options).1 = .ok tune)
    (larger : options.player.instructionLimit ≤ limit) :
    importTune data subtune (options.withLimit limit) = importTune data subtune options := by
  rcases hstart : Session.start data subtune options with ⟨result, notices⟩
  cases result with
  | error fault => simp only [importTune, hstart, reduceCtorEq] at h
  | ok session =>
    have begun : (Session.start data subtune options).1 = .ok session := by rw [hstart]
    have same := Session.start_withLimit begun larger
    have limited := Session.callLimit_start begun
    rw [hstart] at same
    cases hrun : (session.run session.playCalls.toNat).result with
    | error fault => simp only [importTune, hstart, hrun, reduceCtorEq] at h
    | ok _ =>
      have runs := Session.runFrom_withLimit [] session.playCalls.toNat
        (limited.trans_le larger) hrun
      have calls : (session.withLimit limit).playCalls = session.playCalls := rfl
      simp only [importTune, same, hstart, calls]
      rw [Session.run, runs, Reply.withState, ← Session.run, hrun]
      rfl

/-- **The limit only ever cuts a run off.**  From every state of the machine, a routine under a
limit comes to the first of three ends: it stops as soon as it can, or an instruction fails, or the
limit is reached.  A run that stopped is the same under every limit not below the instructions it
took, and under every other is cut off where that limit is.  And an import that succeeds is the same
under every larger limit. -/
theorem limit_onlyCutsOff :
    (∀ (machine : Machine BankedMemory) (routine : Routine) (limit : ℕ),
      machine.Ran routine limit (machine.runRoutine routine limit) ∧
      ∀ run, (machine.runRoutine routine limit).1 = .ok run →
        (∀ other, run.instructions ≤ other →
          machine.runRoutine routine other = machine.runRoutine routine limit) ∧
        ∀ other, other < run.instructions →
          (machine.runRoutine routine other).1 =
            .error (.runaway routine (machine.after other).cpu.pc other)) ∧
    ∀ (data : List UInt8) (subtune : UInt16) (options : ImportOptions) (tune : ImportedTune),
      (importTune data subtune options).1 = .ok tune →
      ∀ limit, options.player.instructionLimit ≤ limit →
        importTune data subtune (options.withLimit limit) = importTune data subtune options := by
  refine ⟨fun machine routine limit => ⟨machine.runRoutine_ran routine limit, fun run ends => ?_⟩,
    fun data subtune options tune succeeds limit larger => importTune_withLimit succeeds larger⟩
  constructor
  · intro other fits
    rw [Machine.runRoutine_eq ends other, if_pos fits]
  · intro other short
    rw [Machine.runRoutine_eq ends other, if_neg (Nat.not_le_of_lt short)]

/-! ### A tune at its limit -/

/-- A tune of one subtune whose init routine `NOP; RTS` at `$1000` takes two instructions, and whose
play routine is the second of them. -/
def briefFile : List UInt8 :=
  [0x50, 0x53, 0x49, 0x44, 0x00, 0x01, 0x00, 0x76, 0x10, 0x00, 0x10, 0x00, 0x10, 0x01, 0x00, 0x01,
    0x00, 0x01, 0x00, 0x00, 0x00, 0x00]
  ++ List.replicate 96 0x00 ++ [0xEA, 0x60]

namespace briefFile

def options : ImportOptions :=
  { ImportOptions.default with player := { PlayerOptions.default with instructionLimit := 2 } }

/-- The play routine of the tune is at `$1001`, and is there. -/
def Rests (player : Player) : Prop :=
  player.setup.options.instructionLimit = 2 ∧ player.timing.playAddress = some 0x1001 ∧
    player.machine.cpu.exitPolicy = .whenStackEmpty 8 ∧ player.machine.bus.ram.peek 0x1001 = 0x60

instance (player : Player) : Decidable (Rests player) :=
  inferInstanceAs (Decidable (_ ∧ _))

/-- Entered there, the processor returns at once. -/
lemma step_eq {machine : Machine BankedMemory} (pc : machine.cpu.pc = 0x1001)
    (sp : machine.cpu.sp = 0xFF) (exitPolicy : machine.cpu.exitPolicy = .whenStackEmpty 8)
    (routine : machine.bus.ram.peek 0x1001 = 0x60) :
    ∃ cpu : Processor, machine.step =
      (.ok (.finished .fromSubroutine), ⟨cpu, machine.bus.markRead 0x1001⟩) ∧
        cpu.exitPolicy = .whenStackEmpty 8 := by
  have fetched : Bus.read machine.bus 0x1001 = (0x60, machine.bus.markRead 0x1001) :=
    Prod.ext routine rfl
  have row : Opcode.decode 0x60 = .plain .rts .implicit 6 := rfl
  have empty : (ExitPolicy.whenStackEmpty 8).fires 0xFF 2 = true := by decide
  have ends : machine.cpu.dispatch 0x60 = .done
      ⟨{ machine.cpu with fetchedAt := machine.cpu.pc }.advance (.plain .rts .implicit 6) false,
        .ok (.finished .fromSubroutine)⟩ := by
    rw [Processor.dispatch, row]
    change Processor.returnFromSubroutine _ = _
    refine if_pos ?_
    change machine.cpu.exitPolicy.fires machine.cpu.sp 2 = true
    rw [exitPolicy, sp, empty]
  simp only [Machine.step, Processor.step, BusProgram.run, pc, fetched, ends]
  exact ⟨_, rfl, exitPolicy⟩

lemma peek_setControl (memory : BankedMemory) (value : UInt8) :
    (memory.setControl value).ram.peek 0x1001 = memory.ram.peek 0x1001 :=
  (memory.ram.peek_poke 1 0x1001 value).trans (if_neg (by decide))

lemma peek_bankForPlay (setup : Setup) (memory : BankedMemory) :
    (setup.bankForPlay 0x1001 memory).ram.peek 0x1001 = memory.ram.peek 0x1001 := by
  unfold Setup.bankForPlay
  split
  · exact peek_setControl memory _
  · rfl

lemma peek_showIo (memory : BankedMemory) :
    memory.showIo.ram.peek 0x1001 = memory.ram.peek 0x1001 := by
  unfold BankedMemory.showIo
  split
  · rfl
  · exact peek_setControl memory _

lemma rests_play {player : Player} (h : Rests player) :
    player.play.result = .ok 1 ∧ Rests player.play.state := by
  obtain ⟨limit, playAddress, exitPolicy, routine⟩ := h
  set entered := Player.enterPlay player.setup 0x1001 player.machine with hentered
  have fetched : entered.bus.ram.peek 0x1001 = 0x60 :=
    (peek_bankForPlay player.setup player.machine.bus).trans routine
  have policy : entered.cpu.exitPolicy = .whenStackEmpty 8 := exitPolicy
  have pc : entered.cpu.pc = 0x1001 := rfl
  obtain ⟨cpu, step, left⟩ := step_eq pc rfl policy fetched
  have ends : entered.EndsAt .play 0 (.returned .fromSubroutine) :=
    ⟨.finished .fromSubroutine, congrArg Prod.fst step, rfl⟩
  have ran : player.playRun 0x1001 =
      (.ok ⟨1, .returned .fromSubroutine⟩, ⟨cpu, entered.bus.markRead 0x1001⟩) := by
    rw [Player.playRun, limit, ← hentered,
      Machine.runRoutine_of_endsAt (fun k hk => absurd hk k.not_lt_zero) ends (by decide)]
    have stepped : entered.after 1 = ⟨cpu, entered.bus.markRead 0x1001⟩ := congrArg Prod.snd step
    rw [stepped]
  rcases player.play_cases with ⟨unknown, -, -⟩ | ⟨address, haddress,
    ⟨fault, machine, hrun, -, -⟩ | ⟨run, machine, hrun, result, state⟩⟩
  · rw [unknown] at playAddress
    cases playAddress
  · rw [playAddress] at haddress
    cases haddress
    rw [ran] at hrun
    cases hrun
  · rw [playAddress] at haddress
    cases haddress
    rw [ran] at hrun
    cases hrun
    rw [result, state]
    refine ⟨rfl, limit, playAddress, left, ?_⟩
    refine (peek_showIo _).trans ?_
    exact (peek_bankForPlay player.setup player.machine.bus).trans routine

lemma runFrom_ok {session : Session} (h : Rests session.player) (told : List Notice) (calls : ℕ) :
    (session.runFrom told calls).result = .ok () := by
  induction calls generalizing session told with
  | zero => rfl
  | succ calls ih =>
    obtain ⟨plays, rests⟩ := rests_play h
    rcases session.step_cases with ⟨fault, fails, -, -⟩ | ⟨count, -, passes, state⟩
    · rw [plays] at fails
      cases fails
    · rcases hstep : session.step with ⟨result, next, notices⟩
      rw [hstep] at passes state
      obtain rfl : result = .ok () := passes
      obtain rfl : next = session.played.append session.taken := state
      simp only [Session.runFrom, hstep]
      exact ih rests _

lemma start_rests : ∃ session, (Session.start briefFile 1 options).1 = .ok session ∧
    Rests session.player := by
  have computed : (match (Session.start briefFile 1 options).1 with
      | .ok session => decide (Rests session.player)
      | .error _ => false) = true := by
    decide +kernel
  cases hstart : (Session.start briefFile 1 options).1 with
  | error fault =>
    rw [hstart] at computed
    cases computed
  | ok session =>
    rw [hstart] at computed
    exact ⟨session, rfl, of_decide_eq_true computed⟩

lemma imported : ∃ tune, (importTune briefFile 1 options).1 = .ok tune := by
  obtain ⟨session, hstart, rests⟩ := start_rests
  have runs := runFrom_ok rests [] session.playCalls.toNat
  rcases hresult : Session.start briefFile 1 options with ⟨result, notices⟩
  obtain rfl : result = .ok session := (congrArg Prod.fst hresult).symm.trans hstart
  refine ⟨(session.run session.playCalls.toNat).state.finish, ?_⟩
  simp only [importTune, hresult]
  rw [Session.run, runs]

/-- The machine of the tune, entered at its init routine. -/
def entered : Machine BankedMemory where
  cpu := { Processor.powerOn 0x1000 with sp := 0xFF, exitPolicy := .whenStackEmpty 8 }
  bus := BankedMemory.powerOn.loadRam 0x1000 [0xEA, 0x60]

lemma entered_ends :
    ∃ run, (entered.runRoutine .init 2).1 = .ok run ∧ run.instructions = 2 := by
  have computed :
      (entered.runRoutine .init 2).1.toOption = some ⟨2, .returned .fromSubroutine⟩ := by
    decide +kernel
  cases hresult : (entered.runRoutine .init 2).1 with
  | error fault =>
    rw [hresult] at computed
    cases computed
  | ok run =>
    rw [hresult] at computed
    cases computed
    exact ⟨_, rfl, rfl⟩

/-- The theorem at this tune: two instructions end init, one does not; and what is imported with
two is imported with any larger number. -/
theorem alike_from_two :
    (∀ other, 2 ≤ other → entered.runRoutine .init other = entered.runRoutine .init 2) ∧
      (entered.runRoutine .init 1).1 = .error (.runaway .init (entered.after 1).cpu.pc 1) ∧
      (∃ tune, (importTune briefFile 1 options).1 = .ok tune) ∧
      ∀ limit, 2 ≤ limit →
        importTune briefFile 1 (options.withLimit limit) = importTune briefFile 1 options := by
  obtain ⟨run, ends, count⟩ := entered_ends
  obtain ⟨tune, succeeds⟩ := imported
  obtain ⟨onRoutines, onImports⟩ := limit_onlyCutsOff
  obtain ⟨same, cut⟩ := (onRoutines entered .init 2).2 run ends
  rw [count] at same cut
  exact ⟨same, cut 1 (by decide), ⟨tune, succeeds⟩, onImports briefFile 1 options tune succeeds⟩

end briefFile

end SidScore
