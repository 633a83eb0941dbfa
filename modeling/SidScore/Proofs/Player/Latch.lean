import SidScore.Proofs.Player.History

/-!
# The latch that init stores

A tune that wants to be called more often than once a frame has its init routine program the
interrupt timer.  Whether it did is asked of the access log, and what the latch is of the register
file.  The two do not see the same stores.  The log has the addresses as they were issued, whatever
showed there; the register file follows the decoding and is reached only while the registers show.

So a latch stored through a repetition of the timer is in its registers and is not reported, and a
store into the memory under the registers has them reported though nothing was stored there.  The
main theorem, `Player.latch_follows_notes`, says what is reported of a tune that was just loaded:
the latch follows what was noted of the timer, always, and hence what was written to it exactly
where the two agree.

What a call does to the timing in general is `Player.adopts_perform`: it adopts the latch that it
finds.
-/

namespace SidScore

/-! ## The timer's registers -/

namespace BankedMemory

variable {memory : BankedMemory}

/-- What the latch of the interrupt timer is, whoever has put it there. -/
def timerLatch (memory : BankedMemory) : UInt16 :=
  wordOf (memory.ioRegister timerLow) (memory.ioRegister timerHigh)

lemma connected_timerLow : memory.Connected timerLow :=
  ⟨⟨by decide, by decide⟩, rfl, by decide⟩

lemma connected_timerHigh : memory.Connected timerHigh :=
  ⟨⟨by decide, by decide⟩, rfl, by decide⟩

end BankedMemory

/-! ## Written and noted -/

/-- Some store reached the timer. -/
def TimerWritten (canonical : UInt16 → UInt16) (stores : List StoreRecord) : Prop :=
  ∃ record ∈ stores, record.reaches canonical timerLow = true ∨
    record.reaches canonical timerHigh = true

/-- Some store is noted for the timer: one to its own addresses, whatever showed there. -/
def TimerNoted (stores : List StoreRecord) : Prop :=
  ∃ record ∈ stores, record.address = timerLow ∨ record.address = timerHigh

instance (canonical : UInt16 → UInt16) (stores : List StoreRecord) :
    Decidable (TimerWritten canonical stores) :=
  inferInstanceAs (Decidable (∃ record ∈ stores, _))

instance (stores : List StoreRecord) : Decidable (TimerNoted stores) :=
  inferInstanceAs (Decidable (∃ record ∈ stores, _))

/-- A latch is reported if and only if one was written, and it is the one that is held. -/
def LatchLaw (written : Prop) (held : UInt16) (latch : Option UInt16) : Prop :=
  ∀ value, latch = some value ↔ written ∧ value = held

/-- What is noted is reported, so the law holds where that is what was written. -/
lemma latchLaw_iff {noted written : Prop} [Decidable noted] (held : UInt16) :
    LatchLaw written held (if noted then some held else none) ↔ (noted ↔ written) := by
  constructor
  · intro law
    have here := law held
    split at here <;> simp_all
  · intro agree value
    rw [← agree]
    split
    · next known => simp [known, eq_comm]
    · next unknown => simp [unknown]

/-! ## What a timing adopts -/

/-- The speed-up that a latch stands for, if it counts as faster. -/
def Setup.fasterSpeed? (setup : Setup) (latch : UInt16) : Option Float :=
  match setup.speedUp? latch with
  | some (factor, true) => some factor
  | some (_, false) | none => none

/-- A latch of 0 stands for none. -/
lemma Setup.fasterSpeed?_zero (setup : Setup) : setup.fasterSpeed? 0 = none :=
  rfl

/-- The timing after some latches were found.  The latest counts, and the speed-up is that of the
latest that counts as faster. -/
structure Timing.Adopts (setup : Setup) (before : Timing) (latches : List UInt16) (after : Timing) :
    Prop where
  latch : after.latch = latches.getLast?.or before.latch
  multispeed : after.multispeed = (latches.filterMap setup.fasterSpeed?).getLastD before.multispeed

namespace Timing.Adopts

variable {setup : Setup} {first second third : Timing} {early late : List UInt16}

lemma refl (setup : Setup) (timing : Timing) : timing.Adopts setup [] timing :=
  ⟨rfl, rfl⟩

lemma trans (h : first.Adopts setup early second) (h' : second.Adopts setup late third) :
    first.Adopts setup (early ++ late) third where
  latch := by rw [h'.latch, h.latch, List.getLast?_append, Option.or_assoc]
  multispeed := by
    rw [h'.multispeed, h.multispeed, List.filterMap_append]
    simp only [List.getLastD_eq_getLast?, List.getLast?_append]
    cases (late.filterMap setup.fasterSpeed?).getLast? <;> simp

/-- A call finds at most one latch. -/
lemma of_found {found : Option UInt16} (h : first.Adopts setup found.toList second) :
    second.latch = found.or first.latch ∧
      second.multispeed = (found.bind setup.fasterSpeed?).getD first.multispeed := by
  rw [h.latch, h.multispeed]
  cases found with
  | none => exact ⟨rfl, rfl⟩
  | some latch => cases setup.fasterSpeed? latch <;> simp [*]

/-- The play routine's address is not told by the timer. -/
lemma withPlayAddress (h : first.Adopts setup early second) (address : Option UInt16) :
    first.Adopts setup early { second with playAddress := address } :=
  ⟨h.latch, h.multispeed⟩

/-- The latch in memory is adopted. -/
lemma adoptLatch (setup : Setup) (memory : BankedMemory) (timing : Timing) :
    timing.Adopts setup memory.storedLatch?.toList (setup.adoptLatch memory timing) := by
  unfold Setup.adoptLatch
  cases memory.storedLatch? with
  | none => exact refl setup timing
  | some latch =>
    simp only [Option.toList_some]
    cases hspeed : setup.speedUp? latch with
    | none => constructor <;> simp [Setup.fasterSpeed?, hspeed]
    | some speed =>
      obtain ⟨factor, faster⟩ := speed
      cases faster <;> constructor <;> simp [Setup.fasterSpeed?, hspeed]

end Timing.Adopts

namespace Player

/-! ## One call -/

/-- The latch that a call finds in the timer.  Only init looks, and only if its routine ended. -/
def latchFound (player : Player) : PlayerCall → Option UInt16
  | .init subtune =>
    match player.setup.file.checkSubtune subtune, player.initRun subtune with
    | .ok _, (.ok _, machine) => machine.bus.storedLatch?
    | _, _ => none
  | .play | .takeStores => none

variable {setup : Setup} {player : Player} {subtune : UInt16}

lemma latchFound_of_ended {run : RoutineRun} {machine : Machine BankedMemory}
    (check : player.setup.file.checkSubtune subtune = .ok ())
    (hrun : player.initRun subtune = (.ok run, machine)) :
    player.latchFound (.init subtune) = machine.bus.storedLatch? := by
  simp [latchFound, check, hrun]

/-- **What a call does to the timing**, whatever becomes of it: it adopts the latch that it
finds. -/
lemma adopts_perform (player : Player) (call : PlayerCall) :
    player.timing.Adopts player.setup (player.latchFound call).toList
      (player.perform call).timing := by
  cases call with
  | init subtune =>
    show player.timing.Adopts _ _ (player.init subtune).state.timing
    rcases player.init_cases subtune with ⟨fault, refused, same⟩ |
      ⟨check, ⟨fault, machine, hrun, -, state⟩ | ⟨run, machine, notices, hrun, same⟩⟩
    · rw [same, latchFound, refused]
      exact .refl player.setup player.timing
    · rw [state, latchFound, check, hrun]
      exact .refl player.setup player.timing
    · rw [same, latchFound_of_ended check hrun]
      have adopted := Timing.Adopts.adoptLatch player.setup machine.bus player.timing
      rcases settle_cases player.setup machine player.timing notices with
        ⟨address, -, -, state⟩ | ⟨-, -, state⟩
      · rw [state]
        exact adopted.withPlayAddress (some address)
      · rw [state]
        exact adopted
  | play =>
    show player.timing.Adopts _ _ player.play.state.timing
    have same : player.play.state.timing = player.timing := by
      rcases player.play_cases with ⟨-, -, same⟩ | ⟨_, -,
        ⟨_, _, -, -, state⟩ | ⟨_, _, -, -, state⟩⟩
      · rw [same]
      · rw [state]
      · rw [state]
    rw [same]
    exact .refl player.setup player.timing
  | takeStores => exact .refl player.setup player.timing

lemma Fitted.adopts_perform (h : player.Fitted setup) (call : PlayerCall) :
    player.timing.Adopts setup (player.latchFound call).toList (player.perform call).timing := by
  have adopted := player.adopts_perform call
  rw [h.plays] at adopted
  exact adopted

lemma Fitted.adopts_init (h : player.Fitted setup) (subtune : UInt16) :
    player.timing.Adopts setup (player.latchFound (.init subtune)).toList
      (player.init subtune).state.timing :=
  h.adopts_perform (.init subtune)

/-! ## The latch and the stores of init -/

/-- Init finds what is in the timer if its routine has made a store that is noted. -/
lemma latchFound_init (h : (player.init subtune).result = .ok ()) :
    player.latchFound (.init subtune) = if TimerNoted (player.initStores subtune) then
      some (player.init subtune).state.machine.bus.timerLatch else none := by
  obtain ⟨run, machine, address, check, hrun, haddress⟩ := exists_of_init_ok h
  obtain ⟨-, state⟩ := init_of_ended check hrun haddress
  -- The list of observed stores says nothing of the timer.
  have same : machine.bus.storedLatch? = (player.init subtune).state.machine.bus.storedLatch? := by
    rw [state]
    rfl
  have noted : TimerNoted (player.initStores subtune) ↔
      ((player.init subtune).state.machine.bus.wasWritten timerLow ||
        (player.init subtune).state.machine.bus.wasWritten timerHigh) = true := by
    simp only [Bool.or_eq_true, (initLeaves h).wasWritten, TimerNoted, and_or_left, exists_or]
  rw [latchFound_of_ended check hrun, same, BankedMemory.storedLatch?]
  simp only [noted]
  rfl

lemma timing_of_load (h : Player.load setup = .ok player) : player.timing = .initial := by
  unfold load at h
  split at h
  · cases h
    rfl
  · cases h

/-- Of an init that comes first the timing is told by what it finds. -/
lemma Fitted.timing_init (h : player.Fitted setup) (fresh : player.timing = .initial)
    (subtune : UInt16) :
    (player.init subtune).state.timing.latch = player.latchFound (.init subtune) ∧
      (player.init subtune).state.timing.multispeed =
        ((player.latchFound (.init subtune)).bind setup.fasterSpeed?).getD
          Timing.initial.multispeed := by
  have adopted := (h.adopts_init subtune).of_found
  rw [fresh] at adopted
  exact ⟨adopted.1.trans Option.or_none, adopted.2⟩

/-- Loading a tune clears the timer, so after a first init that goes through it has what that init
has stored there. -/
lemma timerLatch_init (h : Player.load setup = .ok player)
    (hinit : (player.init subtune).result = .ok ()) :
    (player.init subtune).state.machine.bus.timerLatch =
      wordOf (lastStored (·.reaches setup.canonical timerLow) 0 (player.initStores subtune))
        (lastStored (·.reaches setup.canonical timerHigh) 0 (player.initStores subtune)) := by
  obtain ⟨_, _, _, check, -, -⟩ := exists_of_init_ok hinit
  have stores : player.storesIn (.init subtune) = player.initStores subtune := by
    simp only [storesIn, check]
  have left {register : UInt16} (connected : player.machine.bus.Connected register) :
      (player.init subtune).state.machine.bus.ioRegister register =
        lastStored (·.reaches setup.canonical register) 0 (player.initStores subtune) := by
    rw [← (Reached.load h).fitted.canonical, ← ioRegister_of_load h connected, ← stores]
    exact ioRegister_perform connected (.init subtune)
  rw [BankedMemory.timerLatch, left BankedMemory.connected_timerLow,
    left BankedMemory.connected_timerHigh]

/-- **What is reported of the timer.**  Take a tune that was just loaded and an init that goes
through.  A latch is reported if some store of init is noted for the timer, and it is what the
timer's registers then hold, which is what the stores that reached them have put there.  The calls
are as fast as that latch makes them, and at the usual speed if there is none or if it is 0.  So the
latch is what init has stored exactly if a store is noted where one reached the timer. -/
theorem latch_follows_notes {setup : Setup} {player : Player} (h : Player.load setup = .ok player)
    (subtune : UInt16) (hinit : (player.init subtune).result = .ok ()) :
    let after := (player.init subtune).state
    let stores := player.initStores subtune
    let held := wordOf (after.machine.bus.ioRegister timerLow)
      (after.machine.bus.ioRegister timerHigh)
    held = wordOf (lastStored (·.reaches setup.canonical timerLow) 0 stores)
      (lastStored (·.reaches setup.canonical timerHigh) 0 stores) ∧
    after.timing.latch = (if TimerNoted stores then some held else none) ∧
    after.timing.multispeed = (after.timing.latch.bind setup.fasterSpeed?).getD 1.0 ∧
    (after.timing.latch = none ∨ after.timing.latch = some 0 → after.timing.multispeed = 1.0) ∧
    (LatchLaw (TimerWritten setup.canonical stores) held after.timing.latch ↔
      (TimerNoted stores ↔ TimerWritten setup.canonical stores)) := by
  intro after stores held
  obtain ⟨latch, speed⟩ := (Reached.load h).fitted.timing_init (timing_of_load h) subtune
  have found : player.latchFound (.init subtune) = if TimerNoted stores then some held else none :=
    latchFound_init hinit
  rw [← latch] at speed found
  refine ⟨timerLatch_init h hinit, found, speed, ?_, ?_⟩
  · rintro (unknown | zero)
    · rw [unknown] at speed
      exact speed
    · rw [zero, Option.bind_some, setup.fasterSpeed?_zero] at speed
      exact speed
  · rw [found]
    exact latchLaw_iff held

/-! ## A latch stored through a repetition -/

/-- A tune whose init stores the system's own latch in the timer, through `$DC14` and `$DC15`. -/
def repeatedTimer : Setup where
  file :=
    { header := { (default : Header) with
        version := 2, initAddress := 0x0200, playAddress := 0x020B, songs := 1, startSong := 1 }
      program := [0xA9, 0x25, 0x8D, 0x14, 0xDC, 0xA9, 0x40, 0x8D, 0x15, 0xDC, 0x60, 0x60]
      loadAddress := 0x0200 }
  region := .pal
  options := .default

namespace repeatedTimer

lemma load_eq : Player.load repeatedTimer = .ok (loaded repeatedTimer) :=
  load_of_fits (by decide)

lemma init_ok : ((loaded repeatedTimer).init 1).result = .ok () :=
  eq_ok_of_isOk (by decide +kernel)

lemma initStores_eq : (loaded repeatedTimer).initStores 1 =
    [⟨0xDC14, 0x25, true⟩, ⟨0xDC15, 0x40, true⟩] := by
  decide +kernel

lemma written : TimerWritten repeatedTimer.canonical ((loaded repeatedTimer).initStores 1) := by
  rw [initStores_eq]
  decide +kernel

lemma not_noted : ¬ TimerNoted ((loaded repeatedTimer).initStores 1) := by
  rw [initStores_eq]
  decide

/-- The theorem at this tune: the timer was written and no latch is reported. -/
theorem latch_unreported : ((loaded repeatedTimer).init 1).result = .ok () ∧
    TimerWritten repeatedTimer.canonical ((loaded repeatedTimer).initStores 1) ∧
    ((loaded repeatedTimer).init 1).state.timing.latch = none := by
  obtain ⟨-, latch, -, -, -⟩ := latch_follows_notes load_eq 1 init_ok
  rw [if_neg not_noted] at latch
  exact ⟨init_ok, written, latch⟩

end repeatedTimer

/-- **What init stores in the timer is not always reported.** -/
theorem latch_law_fails :
    ¬ ∀ (setup : Setup) (player : Player), Player.load setup = .ok player → ∀ subtune : UInt16,
      (player.init subtune).result = .ok () →
      LatchLaw (TimerWritten setup.canonical (player.initStores subtune))
        (wordOf ((player.init subtune).state.machine.bus.ioRegister timerLow)
          ((player.init subtune).state.machine.bus.ioRegister timerHigh))
        (player.init subtune).state.timing.latch := by
  intro law
  have fitted := (Reached.load repeatedTimer.load_eq).fitted
  have latch := (fitted.timing_init (timing_of_load repeatedTimer.load_eq) 1).1
  rw [latchFound_init repeatedTimer.init_ok, if_neg repeatedTimer.not_noted] at latch
  have reported := (law _ _ repeatedTimer.load_eq 1 repeatedTimer.init_ok _).mpr
    ⟨repeatedTimer.written, rfl⟩
  rw [latch] at reported
  cases reported

end Player

end SidScore
