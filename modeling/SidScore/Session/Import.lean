import SidScore.Sample.Sampler
import SidScore.Score.Timeline
import SidScore.Session.Options
import SidScore.Session.Recording

/-!
# Importing a subtune

A session reads a file, runs the subtune's init routine and then, call by call, runs the play
routine, samples the chips, extracts the events and appends them to the timeline.

A session only grows: a call that goes through appends one row to the recording and at most one row
to each voice.  A call that fails appends nothing and does not move the time on; only the machine
has changed.
-/

namespace SidScore

/-- The import of one subtune in progress. -/
structure Session where
  /-- The tune in its machine. -/
  player : Player
  /-- The chips under observation. -/
  sampler : Sampler
  /-- What is remembered of the voices. -/
  extractor : Extractor
  /-- The rows so far. -/
  recording : Recording
  /-- The events so far. -/
  timeline : Timeline
  /-- The durations of the rows to come. -/
  tempo : Tempo
  /-- The address of the play routine. -/
  playAddress : UInt16
  /-- The calls so far. -/
  calls : UInt64
  /-- Their duration in thousandths of a frame. -/
  time : UInt64
  /-- The length of music asked for, in seconds. -/
  seconds : Float

/-- An imported subtune. -/
structure ImportedTune where
  /-- The header of the file. -/
  header : Header
  /-- The rows. -/
  recording : Recording
  /-- The events. -/
  timeline : Timeline
  /-- The address of the play routine. -/
  playAddress : UInt16
  /-- Calls of the play routine in a frame. -/
  multispeed : Float
  /-- The video standard. -/
  region : Region

namespace Session

/-! ## Starting -/

/-- The durations of the rows: those asked for, or the one that the number of calls a frame
gives. -/
def tempoFor (options : ImportOptions) (multispeed : Float) : Tempo :=
  match options.swing with
  | some (first, second) => .swing first second false
  | none => .ofMultispeed multispeed

/-- The tune of a file, and how it is to be played. -/
def setupOf (data : List UInt8) (options : ImportOptions) : Except TuneFault Setup := do
  options.checkDuration
  let file ← TuneFile.parse data
  pure ⟨file, options.region.getD file.header.clock.region, options.player⟩

/-- What is told while a file is read. -/
def setupNotices (data : List UInt8) (options : ImportOptions) : List Notice :=
  match options.checkDuration with
  | .error _ => []
  | .ok _ => Header.parseNotices data

/-- A session for a tune whose init routine ran. -/
def ofPlayer (options : ImportOptions) (player : Player) : Session :=
  let multispeed := player.timing.multispeed
  let bases := player.setup.file.header.chipBases
  let sampler := Sampler.new bases player.setup.region options.tuning multispeed
  { sampler
    extractor := .new sampler.voiceCount options.extraction
    recording := .new multispeed player.timing.latch
    timeline := .new bases.length
    tempo := tempoFor options multispeed
    playAddress := player.timing.playAddress.getD 0
    calls := 0
    time := 0
    seconds := options.seconds
    player }

/-- What is told of a session that is ready. -/
def readyNotice (session : Session) (subtune : UInt16) : Notice :=
  .importReady subtune session.playAddress session.player.timing.multispeed session.tempo

/-- Reads a file and runs the init routine of a subtune, counted from 1. -/
def start (data : List UInt8) (subtune : UInt16) (options : ImportOptions) :
    Except TuneFault Session × List Notice :=
  let notices := setupNotices data options
  match setupOf data options with
  | .error fault => (.error fault, notices)
  | .ok setup =>
    let notices := notices ++ Player.loadNotices setup
    match Player.load setup with
    | .error fault => (.error fault, notices)
    | .ok player =>
      let reply := player.init subtune
      let notices := notices ++ reply.notices
      match reply.result with
      | .error fault => (.error fault, notices)
      | .ok _ =>
        let session := ofPlayer options reply.state
        (.ok session, notices ++ [session.readyNotice subtune])

/-! ## Going on -/

/-- The calls that cover the length of music asked for. -/
def playCalls (session : Session) : UInt64 :=
  (session.seconds * session.player.setup.region.frameRate
    * session.player.timing.multispeed).round.toUInt64

/-- Appends what a call that went through did to the chips. -/
def append (session : Session) (stores : List Store) : Session :=
  let ⟨player, sampler, extractor, recording, timeline, tempo, playAddress, calls, time,
    seconds⟩ := session
  let (row, sampler) := sampler.sample player.machine.bus stores calls time
  let ⟨voices, instruments⟩ := timeline
  let extraction := extractor.process row instruments
  { player
    sampler
    extractor := extraction.extractor
    recording := recording.push extraction.row
    timeline := (Timeline.mk voices extraction.table).appendFrom 0 time tempo
      extraction.events.toList
    tempo := tempo.advance
    playAddress
    calls := calls + 1
    time := time + tempo.rowDuration.toUInt64
    seconds }

/-- One call of the play routine. -/
def step (session : Session) : Reply Session Unit :=
  let ⟨player, sampler, extractor, recording, timeline, tempo, playAddress, calls, time,
    seconds⟩ := session
  let resume (player : Player) : Session :=
    ⟨player, sampler, extractor, recording, timeline, tempo, playAddress, calls, time, seconds⟩
  match player.play with
  | ⟨.error fault, player, notices⟩ => ⟨.error fault, resume player, notices⟩
  | ⟨.ok _, player, notices⟩ =>
    let (stores, player) := player.takeStores
    ⟨.ok (), (resume player).append stores.toList, notices⟩

/-- Up to a number of calls, until one fails, after what `told` lists backwards. -/
def runFrom (told : List Notice) : Nat → Session → Reply Session Unit
  | 0, session => ⟨.ok (), session, told.reverse⟩
  | n + 1, session =>
    match session.step with
    | ⟨.error fault, session, notices⟩ =>
      ⟨.error fault, session, (notices.reverse ++ told).reverse⟩
    | ⟨.ok _, session, notices⟩ => session.runFrom (notices.reverse ++ told) n

/-- Up to a number of calls, until one fails. -/
def run (session : Session) (calls : Nat) : Reply Session Unit :=
  session.runFrom [] calls

/-- Ends a session. -/
def finish (session : Session) : ImportedTune where
  header := session.player.setup.file.header
  recording :=
    { session.recording with startFrequencies := session.extractor.startFrequencies }
  timeline := session.timeline
  playAddress := session.playAddress
  multispeed := session.player.timing.multispeed
  region := session.player.setup.region

end Session

/-- Imports the length of music asked for of a subtune, counted from 1. -/
def importTune (data : List UInt8) (subtune : UInt16) (options : ImportOptions) :
    Except TuneFault ImportedTune × List Notice :=
  match Session.start data subtune options with
  | (.error fault, notices) => (.error fault, notices)
  | (.ok session, notices) =>
    let reply := session.run session.playCalls.toNat
    let notices := notices ++ reply.notices
    match reply.result with
    | .error fault => (.error fault, notices)
    | .ok _ => (.ok reply.state.finish, notices)

end SidScore
