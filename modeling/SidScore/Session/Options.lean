import SidScore.Document
import SidScore.Player.Basic
import SidScore.Score.Extractor
import SidScore.Score.Pitch

/-!
# Options of an import

Every option has a default, and options are read from a document in which any of them may be
missing; in a list of values, the last ones may be.  What is there has to be of the right kind: a
whole number where a real one is meant is accepted, but not the reverse.
-/

namespace SidScore

open Document (natBelow? nullable? float? bool?)

/-- How a subtune is imported. -/
structure ImportOptions where
  /-- The length of music in seconds. -/
  seconds : Float
  /-- The concert pitch in hertz. -/
  tuning : Float
  /-- How many cents a wobble may reach beyond a semitone's border. -/
  vibratoMargin : Float
  /-- Changes of pitch during a release start notes. -/
  notesInRelease : Bool
  /-- The frequency of a sounding voice is reported at every call. -/
  frequencyEveryCall : Bool
  /-- Two durations in thousandths of a frame between which the rows swing. -/
  swing : Option (UInt32 × UInt32)
  /-- The video standard; the header decides if there is none. -/
  region : Option Region
  /-- The limits of the player. -/
  player : PlayerOptions
  deriving Repr, Inhabited

namespace PlayerOptions

/-- The names of the limits. -/
def fieldNames : List String :=
  ["instruction_limit", "stack_wrap_zone", "multispeed_threshold"]

/-- Reads the limits of a player; missing ones are the usual ones. -/
def ofDocument? (document : Document) : Option PlayerOptions := do
  let document ← document.record? 0 fieldNames
  let limit ← document.defaulted? "instruction_limit" default.instructionLimit
    (natBelow? UInt64.size)
  let zone ← document.defaulted? "stack_wrap_zone" default.stackWrapZone.toNat
    (natBelow? UInt8.size)
  let threshold ← document.defaulted? "multispeed_threshold" default.multispeedThreshold float?
  pure ⟨limit, UInt8.ofNat zone, threshold⟩

end PlayerOptions

namespace Region

/-- The video standard of a name. -/
def ofName? (name : String) : Option Region :=
  if name = pal.name then some pal
  else if name = ntsc.name then some ntsc
  else none

/-- Reads a video standard by its name. -/
def ofDocument? (document : Document) : Option Region :=
  document.word? >>= ofName?

end Region

namespace ImportOptions

/-- The usual options: a minute of music at the standard pitch. -/
def default : ImportOptions where
  seconds := 60.0
  tuning := standardTuning
  vibratoMargin := 0.0
  notesInRelease := false
  frequencyEveryCall := false
  swing := none
  region := none
  player := .default

/-- Reads two durations. -/
def swingOfDocument? : Document → Option (UInt32 × UInt32)
  | .list [first, second] => do
    let first ← first.natBelow? UInt32.size
    let second ← second.natBelow? UInt32.size
    pure (UInt32.ofNat first, UInt32.ofNat second)
  | _ => none

/-- The names of the options. -/
def fieldNames : List String :=
  ["seconds", "tuning", "vibrato_cents_margin", "notes_in_release", "freq_every_call", "swing",
    "region", "driver"]

/-- Reads options; missing ones are the usual ones. -/
def ofDocument? (document : Document) : Option ImportOptions := do
  let document ← document.record? 0 fieldNames
  let seconds ← document.defaulted? "seconds" default.seconds float?
  let tuning ← document.defaulted? "tuning" default.tuning float?
  let vibratoMargin ← document.defaulted? "vibrato_cents_margin" default.vibratoMargin float?
  let notesInRelease ← document.defaulted? "notes_in_release" default.notesInRelease bool?
  let frequencyEveryCall ← document.defaulted? "freq_every_call" default.frequencyEveryCall bool?
  let swing ← document.defaulted? "swing" default.swing (nullable? swingOfDocument?)
  let region ← document.defaulted? "region" default.region (nullable? Region.ofDocument?)
  let player ← document.defaulted? "driver" default.player PlayerOptions.ofDocument?
  pure { seconds, tuning, vibratoMargin, notesInRelease, frequencyEveryCall, swing, region,
         player }

/-- The options that concern the extraction of notes. -/
def extraction (options : ImportOptions) : ExtractOptions :=
  ⟨options.vibratoMargin, options.notesInRelease, options.frequencyEveryCall⟩

/-- The length of music is a length of time. -/
def checkDuration (options : ImportOptions) : Except TuneFault Unit :=
  if !options.seconds.isFinite || options.seconds < 0.0 then
    .error (.badDuration options.seconds)
  else .ok ()

end ImportOptions

end SidScore
