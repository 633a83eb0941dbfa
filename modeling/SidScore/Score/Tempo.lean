/-!
# Tempo

How long each row of a tune lasts, in thousandths of a frame, so that tunes that are called several
times a frame keep whole numbers for their times.  A tempo is either the same for all rows or
swings between two durations.
-/

namespace SidScore

/-- Thousandths of a frame in a frame. -/
def milliframesPerFrame : Float := 1000.0

/-- The durations of the rows, from the current one on. -/
inductive Tempo where
  /-- All rows last equally long. -/
  | fixed (duration : UInt32)
  /-- The rows last `first` and `second` in turn; `onSecond` tells which comes now. -/
  | swing (first second : UInt32) (onSecond : Bool)
  deriving Repr, DecidableEq, Inhabited

namespace Tempo

/-- The nearest whole duration for a number of calls a frame, at least 1.  Anything that is not a
number of at least 1 gives 1, and what is too long gives the longest duration. -/
def ofMultispeed (multispeed : Float) : Tempo :=
  let duration := (milliframesPerFrame / multispeed).round
  .fixed (if 1.0 < duration then duration.toUInt32 else 1)

/-- The duration of the current row. -/
def rowDuration : Tempo → UInt32
  | fixed duration => duration
  | swing first second onSecond => if onSecond then second else first

/-- The tempo from the next row on. -/
def advance : Tempo → Tempo
  | fixed duration => fixed duration
  | swing first second onSecond => swing first second (!onSecond)

end Tempo

end SidScore
