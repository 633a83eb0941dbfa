import SidScore.Proofs.Session.Toggle

/-!
# Stores of calls that failed

A sample is made from the stores of its own call, and of calls before it that failed.  The observer
goes on listing when a call fails, and nothing takes the list until a call goes through.  What it
has listed by then, `Session.leftover`, comes first.

So the stores given to the sampler are those of the call itself exactly if no call that failed since
the latest sample stored anything under observation.  What init stored is never among them.
-/

namespace SidScore

/-- The address is under observation on the machine of a tune. -/
def Setup.observes (setup : Setup) (address : UInt16) : Bool :=
  setup.loadedMemory.observes address

/-- What the observer lists of some stores. -/
def Setup.observed (setup : Setup) (stores : List StoreRecord) : List Store :=
  (stores.filter fun record => setup.observes record.address).map StoreRecord.toStore

namespace Setup

variable (setup : Setup)

lemma observed_append (early late : List StoreRecord) :
    setup.observed (early ++ late) = setup.observed early ++ setup.observed late := by
  rw [observed, List.filter_append, List.map_append]
  rfl

lemma observed_eq_nil {stores : List StoreRecord} :
    setup.observed stores = [] ↔ ∀ record ∈ stores, setup.observes record.address = false := by
  simp [observed]

end Setup

namespace Player

variable {setup : Setup} {player : Player}

/-- Every player that calls lead to has its tune's addresses under observation. -/
lemma Fitted.observes (h : player.Fitted setup) :
    player.machine.bus.observes = setup.observes := by
  have repeats : player.machine.bus.firstChipRepeats = setup.loadedMemory.firstChipRepeats := by
    rw [BankedMemory.firstChipRepeats, h.sidBases]
    rfl
  funext address
  rw [BankedMemory.observes, h.window, repeats]
  rfl

lemma Fitted.observed_play (h : player.Fitted setup) :
    player.play.state.machine.bus.observed.toList =
      player.machine.bus.observed.toList ++ setup.observed player.playStores := by
  rw [player.observed_play, h.observes, Setup.observed]

end Player

namespace Session

variable {setup : Setup} {session : Session}

/-! ## One call -/

/-- A call that fails leaves its stores on the list. -/
lemma Looks.pending_error (h : Looks setup session) {fault : TuneFault}
    (fails : session.step.result = .error fault) :
    session.step.state.pending = session.pending ++ setup.observed session.player.playStores := by
  rw [step_error fails]
  exact h.fitted.observed_play

/-- A call that goes through leaves none. -/
lemma pending_ok (succeeds : session.step.result = .ok ()) : session.step.state.pending = [] := by
  rw [step_ok succeeds]
  rfl

/-- The sampler is given the whole list. -/
lemma Looks.taken (h : Looks setup session) :
    session.taken = session.pending ++ setup.observed session.player.playStores :=
  h.fitted.observed_play

/-! ## Any calls -/

/-- The stores that a number of calls leave on the way to the next sample: those of the latest
calls, back to one that went through. -/
def leftover (start : Session) : ℕ → List StoreRecord
  | 0 => []
  | n + 1 =>
    match (start.after n).step.result with
    | .ok _ => []
    | .error _ => leftover start n ++ (start.after n).player.playStores

lemma Looks.pending_after {start : Session} (h : Looks setup start) (fresh : start.pending = [])
    (n : ℕ) : (start.after n).pending = setup.observed (start.leftover n) := by
  induction n with
  | zero => exact fresh
  | succ n ih =>
    show (start.after n).step.state.pending = _
    rw [leftover]
    cases hresult : (start.after n).step.result with
    | error fault => rw [(h.after n).pending_error hresult, ih, Setup.observed_append]
    | ok _ => exact pending_ok hresult

/-- The sampler is given what is left over, and then the stores of the call. -/
lemma Looks.taken_after {start : Session} (h : Looks setup start) (fresh : start.pending = [])
    (n : ℕ) : (start.after n).taken = setup.observed (start.leftover n) ++
      setup.observed (start.after n).player.playStores := by
  rw [(h.after n).taken, h.pending_after fresh]

/-- Init leaves nothing. -/
lemma pending_start {player : Player} {subtune : UInt16}
    (hinit : (player.init subtune).result = .ok ()) (options : ImportOptions) :
    (ofPlayer options (player.init subtune).state).pending = [] :=
  congrArg Array.toList (Player.initLeaves hinit).observed

/-- **What a sample is made from.**  Take a player that any calls have led to, an init that goes
through, and any calls of the play routine after it, failing ones included.  When a call goes
through, the sampler is given the observed stores that calls have left since the latest sample, and
then those of the call itself, in order.  These are its own alone if nothing under observation was
left.  After init, and after a call that went through, nothing was left at all. -/
theorem taken_with_leftover {player : Player} (reached : player.Reached setup) (subtune : UInt16)
    (hinit : (player.init subtune).result = .ok ()) (options : ImportOptions) (call : ℕ)
    (succeeds : ((ofPlayer options (player.init subtune).state).after call).step.result = .ok ()) :
    let start := ofPlayer options (player.init subtune).state
    let session := start.after call
    let own := setup.observed session.player.playStores
    session.step.state = session.played.append session.taken ∧
      session.taken = setup.observed (start.leftover call) ++ own ∧
      (session.taken = own ↔
        ∀ record ∈ start.leftover call, setup.observes record.address = false) ∧
      ((∀ before, before + 1 = call → (start.after before).step.result = .ok ()) →
        start.leftover call = []) := by
  intro start session own
  have looks : Looks setup start := looks_start (reached.init subtune).fitted options
  have taken : session.taken = setup.observed (start.leftover call) ++ own :=
    looks.taken_after (pending_start hinit options) call
  refine ⟨step_ok succeeds, taken, ?_, ?_⟩
  · rw [taken, ← Setup.observed_eq_nil]
    exact List.append_left_eq_self
  · intro went
    cases call with
    | zero => rfl
    | succ before => rw [leftover, went before rfl]

/-! ## A store before a fault -/

/-- A tune whose play routine closes the first gate and meets a byte that is no instruction.  Its
first byte is then `RTS`, so that the next call returns at once. -/
def strandedStore : Setup where
  file :=
    { header := { (default : Header) with
        version := 2, initAddress := 0x0200, playAddress := 0x0201, songs := 1, startSong := 1 }
      program := [0x60, 0xA9, 0x60, 0x8D, 0x01, 0x02, 0x8D, 0x04, 0xD4, 0x02]
      loadAddress := 0x0200 }
  region := .pal
  options := .default

namespace strandedStore

/-- The player of the tune. -/
def player : Player where
  setup := strandedStore
  machine := (Machine.powerOn strandedStore.loadedMemory).mapCpu fun cpu =>
    { cpu with exitPolicy := .whenStackEmpty strandedStore.options.stackWrapZone }
  timing := .initial

/-- The session of the tune. -/
def start : Session :=
  ofPlayer .default (player.init 1).state

lemma reached : player.Reached strandedStore :=
  .load (if_pos (by decide))

lemma init_ok : (player.init 1).result = .ok () :=
  eq_ok_of_isOk (by decide +kernel)

lemma first_fails : (start.after 0).step.result.isOk = false := by
  decide +kernel

lemma second_ok : (start.after 1).step.result = .ok () :=
  eq_ok_of_isOk (by decide +kernel)

lemma first_stores : strandedStore.observed (start.after 0).player.playStores =
    [⟨0xD404, 0x60⟩] := by
  decide +kernel

lemma second_stores : strandedStore.observed (start.after 1).player.playStores = [] := by
  decide +kernel

lemma leftover_eq : strandedStore.observed (start.leftover 1) = [⟨0xD404, 0x60⟩] := by
  rw [leftover]
  cases first : (start.after 0).step.result with
  | ok _ =>
    have fails := first_fails
    rw [first] at fails
    cases fails
  | error fault =>
    dsimp only
    rw [leftover, List.nil_append, first_stores]

/-- The theorem at this tune: the second call stores nothing under observation, and its sample is
given the store of the first. -/
theorem second_taken : (start.after 1).step.result = .ok () ∧
    (start.after 1).taken = [⟨0xD404, 0x60⟩] ∧
    strandedStore.observed (start.after 1).player.playStores = [] := by
  obtain ⟨-, taken, -, -⟩ := taken_with_leftover reached 1 init_ok .default 1 second_ok
  refine ⟨second_ok, ?_, second_stores⟩
  apply taken.trans
  show strandedStore.observed (start.leftover 1) ++
    strandedStore.observed (start.after 1).player.playStores = _
  rw [leftover_eq, second_stores]
  rfl

end strandedStore

/-- **Samples are made from more than their call.**  A store of a call that failed is given to the
sampler with the next call that goes through. -/
theorem own_stores_law_fails :
    ¬ ∀ (setup : Setup) (player : Player), player.Reached setup → ∀ subtune : UInt16,
      (player.init subtune).result = .ok () → ∀ (options : ImportOptions) (call : ℕ),
      ((ofPlayer options (player.init subtune).state).after call).step.result = .ok () →
      ((ofPlayer options (player.init subtune).state).after call).taken = setup.observed
        ((ofPlayer options (player.init subtune).state).after call).player.playStores := by
  intro law
  have own : (strandedStore.start.after 1).taken =
      strandedStore.observed (strandedStore.start.after 1).player.playStores :=
    law _ _ strandedStore.reached 1 strandedStore.init_ok .default 1 strandedStore.second_ok
  have looks : Looks strandedStore strandedStore.start :=
    looks_start (strandedStore.reached.init 1).fitted .default
  rw [looks.taken_after (pending_start strandedStore.init_ok .default), strandedStore.leftover_eq,
    strandedStore.second_stores] at own
  cases own

end Session

end SidScore
