import SidScore.Decimal.Basic
import SidScore.Processor.Outcome
import SidScore.Score.Tempo
import SidScore.Tune.Layout

/-!
# Notices

What a run tells about itself besides its result: a value for each kind of event, its importance
and its wording.  A notice never changes a result, so operations hand notices on beside it.
-/

namespace SidScore

/-- How important a notice is. -/
inductive Level where
  /-- Something in the file was ignored. -/
  | warn
  /-- A decision was taken. -/
  | debug
  /-- A routine ended. -/
  | trace
  deriving Repr, DecidableEq, Inhabited

namespace Level

/-- The name of the level. -/
def name : Level → String
  | warn => "WARN"
  | debug => "DEBUG"
  | trace => "TRACE"

/-- The rank of a level; a lower one is more important. -/
def rank : Level → Nat
  | warn => 0
  | debug => 1
  | trace => 2

/-- A reader who asked for `threshold` is shown this level. -/
def shownAt (level threshold : Level) : Bool :=
  level.rank ≤ threshold.rank

end Level

/-- An event worth telling. -/
inductive Notice where
  /-- A return found the stack empty and ended the run. -/
  | emptyStack (kind : Return) (address : UInt16)
  /-- A header has bits set that mean nothing. -/
  | reservedFlags (bits : UInt16)
  /-- An extra chip has the address of another one. -/
  | duplicateChip (chip : ExtraChip) (base : UInt16)
  /-- The byte of an extra chip names no address. -/
  | invalidChip (chip : ExtraChip) (byte : UInt8)
  /-- A header was accepted. -/
  | headerAccepted (header : Header)
  /-- A program was placed in memory. -/
  | loaded (length : Nat) (address : UInt16) (bases : List UInt16) (region : Region)
  /-- The init routine is about to run. -/
  | initStarted (address subtune : UInt16) (control : UInt8)
  /-- The init routine ended in a jump to itself. -/
  | initIdles (address : UInt16)
  /-- The init routine stored a latch in the timer. -/
  | timerLatch (latch : UInt16) (factor : Float) (multispeed : Bool)
  /-- The init routine installed the play routine. -/
  | playInstalled (address : UInt16)
  /-- The play routine returned. -/
  | played (address : UInt16) (instructions : Nat) (cycles : UInt64)
  /-- An import is ready to start. -/
  | importReady (subtune play : UInt16) (multispeed : Float) (tempo : Tempo)
  deriving Inhabited

namespace Notice

/-- The importance of a notice. -/
def level : Notice → Level
  | reservedFlags _ | duplicateChip .. | invalidChip .. => .warn
  | headerAccepted _ | loaded .. | initStarted .. | initIdles _ | timerLatch .. | playInstalled _
  | importReady .. => .debug
  | emptyStack .. | played .. => .trace

/-- The name of a video standard in notices. -/
def regionName : Region → String
  | .pal => "Pal"
  | .ntsc => "Ntsc"

/-- The text of a tempo in notices. -/
def tempoText : Tempo → String
  | .fixed duration => "Fixed(" ++ toString duration.toNat ++ ")"
  | .swing first second onSecond =>
    "Swing(SwingTempo \x7b durations: [" ++ toString first.toNat ++ ", " ++ toString second.toNat
      ++ "], index: " ++ (if onSecond then "1" else "0") ++ " \x7d)"

/-- The wording of a notice. -/
def text : Notice → String
  | emptyStack kind address => kind.name ++ " at $" ++ hexWord address ++ " with empty stack"
  | reservedFlags bits => "reserved header flag bits set: $" ++ hexWord bits
  | duplicateChip chip base =>
    chip.fieldName ++ " $" ++ hexWord base ++ " duplicates another chip, ignored"
  | invalidChip chip byte =>
    chip.fieldName ++ " byte $" ++ hexByte byte ++ " is not a valid chip address, ignored"
  | headerAccepted h =>
    h.format.name ++ " v" ++ toString h.version.toNat ++ ": " ++ toString h.songs.toNat
      ++ " songs, load $" ++ hexWord h.loadAddress ++ ", init $" ++ hexWord h.initAddress
      ++ ", play $" ++ hexWord h.playAddress ++ ", " ++ toString h.chipBases.length ++ " chip(s)"
  | loaded length address bases region =>
    "loaded " ++ toString length ++ " bytes at $" ++ hexWord address ++ ", chips at ["
      ++ String.intercalate ", " (bases.map hexWord) ++ "], " ++ regionName region ++ " timing"
  | initStarted address subtune control =>
    "init $" ++ hexWord address ++ " for subtune " ++ toString subtune.toNat ++ " with bank $"
      ++ hexByte control
  | initIdles address => "init idles at $" ++ hexWord address
  | timerLatch latch factor true =>
    "CIA latch $" ++ hexWord latch ++ ": multispeed x" ++ Decimal.fixed 2 factor
  | timerLatch latch factor false =>
    "CIA latch $" ++ hexWord latch ++ ": factor " ++ Decimal.fixed 2 factor
      ++ " treated as single speed"
  | playInstalled address => "play address $" ++ hexWord address ++ " installed by init"
  | played address instructions cycles =>
    "play $" ++ hexWord address ++ ": " ++ toString instructions ++ " instructions, "
      ++ toString cycles.toNat ++ " cycles"
  | importReady subtune play multispeed tempo =>
    "subtune " ++ toString subtune.toNat ++ ": play $" ++ hexWord play ++ ", x"
      ++ Decimal.fixed 2 multispeed ++ " speed, " ++ tempoText tempo

end Notice

/-- What is told of an instruction that was fetched at an address. -/
def Outcome.notices (outcome : Outcome) (address : UInt16) : List Notice :=
  match outcome with
  | finished kind => [.emptyStack kind address]
  | continued => []

namespace Header

/-- What is told of an extra chip's placement. -/
def placementNotices (chip : ExtraChip) : ChipPlacement → List Notice
  | .duplicate base => [.duplicateChip chip base]
  | .invalid byte => [.invalidChip chip byte]
  | .absent | .placed _ => []

/-- What is ignored in a header. -/
def warnings (h : Header) : List Notice :=
  (if h.flags &&& Flag.reserved = 0 then [] else [.reservedFlags (h.flags &&& Flag.reserved)])
    ++ placementNotices .second h.secondPlacement ++ placementNotices .third h.thirdPlacement

/-- What is told of the header at the start of a file.  The warnings come before the rules for RSID
are checked, so a header that breaks these has been warned about. -/
def parseNotices (data : List UInt8) : List Notice :=
  match decode data with
  | .error _ => []
  | .ok header =>
    match header.check with
    | .error _ => header.warnings
    | .ok _ => header.warnings ++ [.headerAccepted header]

end Header

end SidScore
