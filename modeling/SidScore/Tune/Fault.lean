import SidScore.Decimal.Shortest
import SidScore.Processor.Outcome
import SidScore.Tune.Header

/-!
# What can go wrong with a tune

Every reason for which a file is refused, a routine is given up or an import cannot start, and the
wording of each.
-/

namespace SidScore

/-- The rules of the format that a header can break. -/
inductive HeaderFault where
  /-- The file starts with neither magic word. -/
  | unknownMagic (bytes : List UInt8)
  /-- The version is not 1–4. -/
  | unknownVersion (version : UInt16)
  /-- The version has no RSID layout. -/
  | versionBeforeRsid
  /-- The program does not start behind the header. -/
  | wrongDataOffset (expected version found : UInt16)
  /-- The number of subtunes is not 1–256. -/
  | songCount (songs : UInt16)
  /-- The starting subtune is not 1–256. -/
  | startSong (song : UInt16)
  /-- An RSID declares a play routine. -/
  | rsidPlayAddress
  /-- An RSID declares a timer. -/
  | rsidSpeed
  /-- An RSID declares a load address. -/
  | rsidLoadAddress
  /-- The init routine of an RSID does not lie in free memory. -/
  | rsidInitAddress (init : UInt16)
  deriving Repr, DecidableEq, Inhabited

namespace HeaderFault

/-- The field at fault. -/
def field : HeaderFault → String
  | unknownMagic _ => "magic"
  | unknownVersion _ | versionBeforeRsid => "version"
  | wrongDataOffset .. => "data_offset"
  | songCount _ => "songs"
  | startSong _ => "start_song"
  | rsidPlayAddress => "play_address"
  | rsidSpeed => "speed"
  | rsidLoadAddress => "load_address"
  | rsidInitAddress _ => "init_address"

/-- The rule that is broken. -/
def reason : HeaderFault → String
  | unknownMagic bytes =>
    "[" ++ String.intercalate ", " (bytes.map hexByte) ++ "] is neither PSID nor RSID"
  | unknownVersion version => toString version.toNat ++ " is outside 1-4"
  | versionBeforeRsid => "RSID requires version 2 or later"
  | wrongDataOffset expected version found =>
    "expected $" ++ hexWord expected ++ " for version " ++ toString version.toNat ++ ", found $"
      ++ hexWord found
  | songCount songs => toString songs.toNat ++ " is outside 1-256"
  | startSong song => toString song.toNat ++ " is outside 1-256"
  | rsidPlayAddress | rsidSpeed | rsidLoadAddress => "must be 0 for RSID"
  | rsidInitAddress init => "$" ++ hexWord init ++ " is in a ROM, I/O or system area"

end HeaderFault

/-- The routines of a tune. -/
inductive Routine where
  /-- Called once, with the number of the subtune. -/
  | init
  /-- Called at every tick. -/
  | play
  deriving Repr, DecidableEq, Inhabited

/-- The name of a routine. -/
def Routine.name : Routine → String
  | init => "init"
  | play => "play"

/-- Why a tune cannot be read, played or imported. -/
inductive TuneFault where
  /-- The file ends too early. -/
  | tooShort (needed actual : Nat)
  /-- The header breaks a rule. -/
  | header (cause : HeaderFault)
  /-- The tune has no such subtune. -/
  | noSuchSubtune (requested songs : UInt16)
  /-- The program does not fit between its load address and the end of memory. -/
  | programTooLarge (length : Nat) (loadAddress : UInt16)
  /-- The length of music asked for is no length of time. -/
  | badDuration (seconds : Float)
  /-- The processor is at fault. -/
  | execution (cause : ExecutionFault)
  /-- A routine did not return in time. -/
  | runaway (routine : Routine) (address : UInt16) (instructions : Nat)
  /-- There is no play routine. -/
  | noPlayAddress (init : UInt16)
  deriving Inhabited

/-- The wording of a fault. -/
def TuneFault.message : TuneFault → String
  | tooShort needed actual =>
    "SID data too short: need " ++ toString needed ++ " bytes, got " ++ toString actual
  | header cause => "invalid SID header field '" ++ cause.field ++ "': " ++ cause.reason
  | noSuchSubtune requested songs =>
    "subtune " ++ toString requested.toNat ++ " out of range 1..=" ++ toString songs.toNat
  | programTooLarge length loadAddress =>
    "payload of " ++ toString length ++ " bytes at $" ++ hexWord loadAddress
      ++ " exceeds the address space"
  | badDuration seconds =>
    "invalid import option 'seconds': " ++ Decimal.shortest seconds
      ++ " is not a finite, non-negative duration"
  | execution cause => cause.message
  | runaway routine address instructions =>
    "runaway " ++ routine.name ++ " routine: still running at $" ++ hexWord address ++ " after "
      ++ toString instructions ++ " instructions"
  | noPlayAddress init =>
    "cannot determine play address: init at $" ++ hexWord init
      ++ " wrote neither $0314/$0315 nor $FFFE/$FFFF"

end SidScore
