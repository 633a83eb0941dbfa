import Mathlib.Tactic.Common
import SidScore.Proofs.Player.Calls
import SidScore.Session.Import

/-!
# The calls of a session

What a call of the play routine does to a session, taken apart: the machine runs, the observed
stores are taken, the chips are sampled, and what is extracted from the sample is appended.  A call
that fails stops after the machine ran.
-/

namespace SidScore

namespace Session

variable (session : Session)

/-- The session after a number of calls, whatever became of them. -/
def after : ℕ → Session
  | 0 => session
  | n + 1 => (after n).step.state

/-! ## The parts of a call -/

/-- The session once the play routine ran and its stores were taken. -/
def played : Session :=
  { session with player := session.player.play.state.takeStores.2 }

/-- The stores taken. -/
def taken : List Store :=
  session.player.play.state.takeStores.1.toList

/-- What is sampled of the machine as it is, given the stores taken. -/
def sampled (stores : List Store) : Row × Sampler :=
  session.sampler.sample session.player.machine.bus stores session.calls session.time

/-- What is extracted from it. -/
def extraction (stores : List Store) : Extraction :=
  session.extractor.process (session.sampled stores).1 session.timeline.instruments

variable {session}

/-- What a call comes to: it fails with the play routine, or it goes through with it and appends
what it did. -/
lemma step_cases (session : Session) :
    (∃ fault, session.player.play.result = .error fault ∧ session.step.result = .error fault ∧
      session.step.state = { session with player := session.player.play.state }) ∨
    ∃ count, session.player.play.result = .ok count ∧ session.step.result = .ok () ∧
      session.step.state = session.played.append session.taken := by
  unfold step
  dsimp only
  split
  · next fault player notices hplay => exact .inl ⟨fault, by rw [hplay], rfl, by rw [hplay]⟩
  · next count player notices hplay =>
    exact .inr ⟨count, by rw [hplay], rfl, by rw [played, taken, hplay]⟩

/-- A call that fails changes nothing but the machine. -/
lemma step_error {fault : TuneFault} (h : session.step.result = .error fault) :
    session.step.state = { session with player := session.player.play.state } := by
  rcases session.step_cases with ⟨_, -, -, state⟩ | ⟨_, -, passes, -⟩
  · exact state
  · rw [passes] at h
    cases h

/-- A call that goes through appends what it did. -/
lemma step_ok (h : session.step.result = .ok ()) :
    session.step.state = session.played.append session.taken := by
  rcases session.step_cases with ⟨_, -, fails, -⟩ | ⟨_, -, -, state⟩
  · rw [fails] at h
    cases h
  · exact state

/-- In it the play routine went through. -/
lemma play_ok (h : session.step.result = .ok ()) :
    ∃ count, session.player.play.result = .ok count := by
  rcases session.step_cases with ⟨_, -, fails, -⟩ | ⟨count, hplay, -, -⟩
  · rw [fails] at h
    cases h
  · exact ⟨count, hplay⟩

end Session

end SidScore
