/-!
# Video standards and their timing

The processor's clock and the length of a frame depend on the video standard.  A tune is played
once per frame unless it reprograms a timer, so the frame is the unit in which calls are counted.
-/

namespace SidScore

/-- A video standard. -/
inductive Region where
  /-- 312 lines of 63 cycles, about 50 frames a second. -/
  | pal
  /-- 263 lines of 65 cycles, about 60 frames a second. -/
  | ntsc
  deriving Repr, DecidableEq, Inhabited

namespace Region

/-- The name of the standard. -/
def name : Region → String
  | pal => "pal"
  | ntsc => "ntsc"

/-- Processor cycles a second. -/
def clockHz : Region → Nat
  | pal => 985248
  | ntsc => 1022727

/-- Lines of a frame. -/
def scanlines : Region → Nat
  | pal => 312
  | ntsc => 263

/-- Processor cycles of a line. -/
def cyclesPerLine : Region → Nat
  | pal => 63
  | ntsc => 65

/-- Visible lines of a frame. -/
def visibleLines : Region → Nat
  | pal => 284
  | ntsc => 235

/-- Processor cycles of a frame. -/
def cyclesPerFrame (region : Region) : Nat :=
  region.scanlines * region.cyclesPerLine

/-- Frames a second. -/
def frameRate (region : Region) : Float :=
  region.clockHz.toFloat / region.cyclesPerFrame.toFloat

/-- Milliseconds of a frame. -/
def frameMs (region : Region) : Float :=
  1000.0 / region.frameRate

/-- The latch that the system programs into its interrupt timer.  A routine that stores a smaller
one is called more often than once a frame. -/
def defaultLatch : Region → UInt16
  | pal => 0x4025
  | ntsc => 0x4295

/-- The pitch in hertz that a frequency register stands for.  The chip adds the register to a
24-bit accumulator at every cycle. -/
def oscillatorHz (region : Region) (register : UInt16) : Float :=
  register.toNat.toFloat * region.clockHz.toFloat / 16777216.0

end Region

end SidScore
