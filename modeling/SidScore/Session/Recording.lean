import SidScore.Sample.Row
import SidScore.Score.Pitch

/-!
# Recordings

All rows of a subtune in order, with what init revealed about its timing and the frequencies at
which notes started.
-/

namespace SidScore

/-- The rows of a subtune. -/
structure Recording where
  /-- The rows, in order. -/
  rows : Array Row
  /-- The latch that init stored in the interrupt timer. -/
  latch : Option UInt16
  /-- Calls of the play routine in a frame. -/
  multispeed : Float
  /-- The frequency registers of all notes that started, in order. -/
  startFrequencies : Array UInt16
  deriving Repr, Inhabited

namespace Recording

/-- A recording without rows. -/
def new (multispeed : Float) (latch : Option UInt16) : Recording :=
  ⟨#[], latch, multispeed, #[]⟩

/-- A recording of nothing. -/
def empty : Recording :=
  new 0.0 none

/-- Appends a row. -/
def push (recording : Recording) (row : Row) : Recording :=
  { recording with rows := recording.rows.push row }

/-- The number of rows. -/
def size (recording : Recording) : Nat :=
  recording.rows.size

/-- There is no row. -/
def isEmpty (recording : Recording) : Bool :=
  recording.rows.isEmpty

/-- The concert pitch for which the tune's notes were made. -/
def estimateTuning? (recording : Recording) (region : Region) : Option Float :=
  SidScore.estimateTuning? region recording.startFrequencies.toList

end Recording

end SidScore
