import SidScore.Proofs.Player.Latch

/-!
# What earlier inits leave of the timing

Init reveals three things of a tune: the address of the play routine, the latch of the interrupt
timer and the speed-up that the latch stands for.  The address is set by every init that goes
through.  The other two are set where there is something to set them to: the latch only if init is
found to have stored one, and the speed-up only if the latch makes the calls faster.  Otherwise both
stay what they were, so a subtune that leaves the timer alone is played with the latch and at the
speed of an earlier one.

What there is to set is the latch that init finds in the timer.  What one call does to the timing is
`Player.adopts_perform`; it is carried to all calls by joining the lists of the latches that they
find.
-/

namespace SidScore

lemma Timing.eq_iff {a b : Timing} :
    a = b ↔ a.playAddress = b.playAddress ∧ a.latch = b.latch ∧ a.multispeed = b.multispeed := by
  cases a
  cases b
  simp [and_comm]

/-! ## The latches found -/

namespace Player

/-- The latches that a number of calls find in the timer, in order. -/
def latchesFound (player : Player) : List PlayerCall → List UInt16
  | [] => []
  | call :: rest => (player.latchFound call).toList ++ (player.perform call).latchesFound rest

/-- The player, as if init had not been called before. -/
def renewed (player : Player) : Player :=
  { player with timing := .initial }

variable {setup : Setup} {player : Player} {subtune : UInt16}

/-! ## The player renewed -/

lemma Fitted.renewed (h : player.Fitted setup) : player.renewed.Fitted setup :=
  h.of_same rfl rfl rfl

lemma latchFound_renewed (player : Player) (call : PlayerCall) :
    player.renewed.latchFound call = player.latchFound call := by
  cases call <;> rfl

/-- Init does not look at the timing.  On the player renewed it goes through as well, and comes to
the same machine and the same play routine. -/
lemma init_renewed (h : (player.init subtune).result = .ok ()) :
    let after := (player.init subtune).state
    let alone := player.renewed.init subtune
    alone.result = .ok () ∧ alone.state.setup = after.setup ∧
      alone.state.machine = after.machine ∧
      alone.state.timing.playAddress = after.timing.playAddress := by
  intro after alone
  obtain ⟨run, machine, address, check, hrun, haddress⟩ := exists_of_init_ok h
  obtain ⟨-, state⟩ := init_of_ended check hrun haddress
  have check' : player.renewed.setup.file.checkSubtune subtune = .ok () := check
  have hrun' : player.renewed.initRun subtune = (.ok run, machine) := hrun
  obtain ⟨result, state'⟩ := init_of_ended check' hrun' haddress
  refine ⟨result, ?_, ?_, ?_⟩
  · simp only [after, alone, state, state']
    rfl
  · simp only [after, alone, state, state']
  · simp only [after, alone, state, state']

lemma Fitted.timing_init_renewed (h : player.Fitted setup) (subtune : UInt16) :
    (player.renewed.init subtune).state.timing.latch = player.latchFound (.init subtune) ∧
      (player.renewed.init subtune).state.timing.multispeed =
        ((player.latchFound (.init subtune)).bind setup.fasterSpeed?).getD
          Timing.initial.multispeed := by
  have told := h.renewed.timing_init rfl subtune
  rw [latchFound_renewed] at told
  exact told

/-! ## All calls -/

/-- **What calls do to the timing**: they adopt the latches that they find, one after the other. -/
lemma Fitted.adopts_after (h : player.Fitted setup) (calls : List PlayerCall) :
    player.timing.Adopts setup (player.latchesFound calls) (player.after calls).timing := by
  induction calls generalizing player with
  | nil => exact .refl setup player.timing
  | cons call rest ih => exact (h.adopts_perform call).trans (ih (h.perform call))

/-! ## An init after other calls -/

/-- Init sets the latch if it finds one. -/
lemma latch_init (h : Player.load setup = .ok player) (calls : List PlayerCall)
    (subtune : UInt16) : ((player.after calls).init subtune).state.timing.latch =
      ((player.after calls).latchFound (.init subtune)).or
        (player.latchesFound calls).getLast? := by
  have fitted := (Reached.load h).fitted
  rw [((fitted.after calls).adopts_init subtune).of_found.1, (fitted.adopts_after calls).latch,
    timing_of_load h]
  simp [Timing.initial]

/-- It sets the speed-up if the latch makes the calls faster. -/
lemma multispeed_init (h : Player.load setup = .ok player) (calls : List PlayerCall)
    (subtune : UInt16) : ((player.after calls).init subtune).state.timing.multispeed =
      (((player.after calls).latchFound (.init subtune)).bind setup.fasterSpeed?).getD
        (((player.latchesFound calls).filterMap setup.fasterSpeed?).getLastD
          Timing.initial.multispeed) := by
  have fitted := (Reached.load h).fitted
  rw [((fitted.after calls).adopts_init subtune).of_found.2,
    (fitted.adopts_after calls).multispeed, timing_of_load h]

/-- **What earlier inits leave of the timing.**  Take a tune that was loaded, any calls, and then an
init that goes through.  The address of the play routine is that which the same init finds on the
player renewed, and machine and tune are the same too.  But a latch that an earlier init has found
stays if this one finds none, and an earlier speed-up stays if this one finds none.  So the timing
is that of the renewed player exactly if neither is the case. -/
theorem init_timing {player : Player} (h : Player.load setup = .ok player)
    (calls : List PlayerCall) (subtune : UInt16)
    (hinit : ((player.after calls).init subtune).result = .ok ()) :
    let before := player.after calls
    let after := (before.init subtune).state
    let alone := before.renewed.init subtune
    let found := before.latchFound (.init subtune)
    let faster := found.bind setup.fasterSpeed?
    let earlier := player.latchesFound calls
    let earlierSpeed := (earlier.filterMap setup.fasterSpeed?).getLastD Timing.initial.multispeed
    (alone.result = .ok () ∧ alone.state.setup = after.setup ∧
      alone.state.machine = after.machine) ∧
    after.timing.playAddress = alone.state.timing.playAddress ∧
    (after.timing.latch = found.or earlier.getLast? ∧ alone.state.timing.latch = found) ∧
    (after.timing.multispeed = faster.getD earlierSpeed ∧
      alone.state.timing.multispeed = faster.getD Timing.initial.multispeed) ∧
    (after.timing = alone.state.timing ↔ (found = none → earlier = []) ∧
      (faster = none → earlierSpeed = Timing.initial.multispeed)) := by
  intro before after alone found faster earlier earlierSpeed
  have fitted : before.Fitted setup := (Reached.load h).fitted.after calls
  obtain ⟨result, sameSetup, sameMachine, sameAddress⟩ := init_renewed hinit
  have latch : after.timing.latch = found.or earlier.getLast? := latch_init h calls subtune
  have speed : after.timing.multispeed = faster.getD earlierSpeed := multispeed_init h calls subtune
  obtain ⟨aloneLatch, aloneSpeed⟩ : alone.state.timing.latch = found ∧
      alone.state.timing.multispeed = faster.getD Timing.initial.multispeed :=
    fitted.timing_init_renewed subtune
  refine ⟨⟨result, sameSetup, sameMachine⟩, sameAddress.symm, ⟨latch, aloneLatch⟩,
    ⟨speed, aloneSpeed⟩, ?_⟩
  have latches : found.or earlier.getLast? = found ↔ (found = none → earlier = []) := by
    cases found <;> simp
  have speeds : faster.getD earlierSpeed = faster.getD Timing.initial.multispeed ↔
      (faster = none → earlierSpeed = Timing.initial.multispeed) := by
    cases faster <;> simp
  rw [Timing.eq_iff, latch, aloneLatch, speed, aloneSpeed, latches, speeds]
  exact and_iff_right sameAddress.symm

/-! ## A subtune that leaves the timer alone -/

/-- A tune of two subtunes.  Init of the first stores `$2012` in the timer, about half of the
system's own latch; init of the second returns at once. -/
def restlessFirst : Setup where
  file :=
    { header := { (default : Header) with
        version := 2, initAddress := 0x0200, playAddress := 0x020E, songs := 2, startSong := 1 }
      program := [0xAA, 0xD0, 0x0A, 0xA9, 0x12, 0x8D, 0x04, 0xDC, 0xA9, 0x20, 0x8D, 0x05, 0xDC,
        0x60, 0x60]
      loadAddress := 0x0200 }
  region := .pal
  options := .default

namespace restlessFirst

lemma load_eq : Player.load restlessFirst = .ok (loaded restlessFirst) :=
  load_of_fits (by decide)

lemma first_ok : ((loaded restlessFirst).init 1).result = .ok () :=
  eq_ok_of_isOk (by decide +kernel)

lemma second_ok : (((loaded restlessFirst).after [.init 1]).init 2).result = .ok () :=
  eq_ok_of_isOk (by decide +kernel)

lemma firstStores_eq : (loaded restlessFirst).initStores 1 =
    [⟨0xDC04, 0x12, true⟩, ⟨0xDC05, 0x20, true⟩] := by
  decide +kernel

lemma secondStores_eq : ((loaded restlessFirst).after [.init 1]).initStores 2 = [] := by
  decide +kernel

lemma earlier_eq : (loaded restlessFirst).latchesFound [.init 1] = [0x2012] := by
  have found : (loaded restlessFirst).latchFound (.init 1) = some 0x2012 := by
    rw [latchFound_init first_ok, timerLatch_init load_eq first_ok, firstStores_eq]
    decide +kernel
  rw [latchesFound, found]
  rfl

lemma found_eq : ((loaded restlessFirst).after [.init 1]).latchFound (.init 2) = none := by
  rw [latchFound_init second_ok, secondStores_eq]
  rfl

/-- The theorem at this tune: after init of the second subtune the latch of the first is still
reported. -/
theorem latch_stays :
    (((loaded restlessFirst).after [.init 1]).init 2).result = .ok () ∧
    (((loaded restlessFirst).after [.init 1]).init 2).state.timing.latch = some 0x2012 ∧
    (((loaded restlessFirst).after [.init 1]).renewed.init 2).state.timing.latch = none := by
  obtain ⟨-, -, ⟨latch, alone⟩, -, -⟩ := init_timing load_eq [.init 1] 2 second_ok
  rw [found_eq, earlier_eq] at latch
  rw [found_eq] at alone
  exact ⟨second_ok, latch, alone⟩

end restlessFirst

/-- **An init does not begin afresh.**  The timing after it can be that of an earlier subtune. -/
theorem fresh_timing_law_fails :
    ¬ ∀ (setup : Setup) (player : Player), Player.load setup = .ok player →
      ∀ (calls : List PlayerCall) (subtune : UInt16),
      ((player.after calls).init subtune).result = .ok () →
      ((player.after calls).init subtune).state.timing =
        ((player.after calls).renewed.init subtune).state.timing := by
  intro law
  have same := law _ _ restlessFirst.load_eq [.init 1] 2 restlessFirst.second_ok
  have latch := latch_init restlessFirst.load_eq [.init 1] 2
  have fitted := (Reached.load restlessFirst.load_eq).fitted.after [.init 1]
  rw [same, (fitted.timing_init_renewed 2).1, restlessFirst.found_eq,
    restlessFirst.earlier_eq] at latch
  simp at latch

end Player

end SidScore
