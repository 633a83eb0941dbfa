import SidScore.Chip.Layout
import SidScore.Timing.Region

/-!
# The header of a tune file

A header holds sixteen fields.  They are kept as the file stores them, down to reserved bits, so
that a header can be written back unchanged.  What they mean (the video standard, the chip
revisions, the chips' addresses) is computed from them when asked for and never stored beside them,
so the two cannot disagree.
-/

namespace SidScore

/-- The two kinds of tune file. -/
inductive Format where
  /-- The host calls an init routine once and a play routine at every tick. -/
  | psid
  /-- The tune runs in a whole machine and installs its own interrupt handler. -/
  | rsid
  deriving Repr, DecidableEq, Inhabited

/-- The name of a format. -/
def Format.name : Format → String
  | .psid => "Psid"
  | .rsid => "Rsid"

/-- The video standards that a tune declares itself written for. -/
inductive ClockStandard where
  /-- None is declared. -/
  | unknown
  /-- PAL. -/
  | pal
  /-- NTSC. -/
  | ntsc
  /-- Either. -/
  | both
  deriving Repr, DecidableEq, Inhabited

namespace ClockStandard

/-- The standard that two bits declare. -/
def ofBits (bits : UInt16) : ClockStandard :=
  if bits &&& 3 = 1 then pal
  else if bits &&& 3 = 2 then ntsc
  else if bits &&& 3 = 3 then both
  else unknown

/-- The name of a declaration. -/
def name : ClockStandard → String
  | unknown => "Unknown"
  | pal => "Pal"
  | ntsc => "Ntsc"
  | both => "Both"

/-- The timing to play at: PAL unless the tune is written for NTSC alone. -/
def region : ClockStandard → Region
  | ntsc => .ntsc
  | unknown | pal | both => .pal

end ClockStandard

/-- The revisions of the sound chip that a tune declares itself written for. -/
inductive ChipModel where
  /-- None is declared. -/
  | unknown
  /-- The 6581. -/
  | mos6581
  /-- The 8580. -/
  | mos8580
  /-- Either. -/
  | both
  deriving Repr, DecidableEq, Inhabited

namespace ChipModel

/-- The revision that two bits declare. -/
def ofBits (bits : UInt16) : ChipModel :=
  if bits &&& 3 = 1 then mos6581
  else if bits &&& 3 = 2 then mos8580
  else if bits &&& 3 = 3 then both
  else unknown

/-- The name of a declaration. -/
def name : ChipModel → String
  | unknown => "Unknown"
  | mos6581 => "Mos6581"
  | mos8580 => "Mos8580"
  | both => "Both"

/-- The declared revision, or else another. -/
def orElse : ChipModel → ChipModel → ChipModel
  | unknown, other => other
  | model, _ => model

end ChipModel

/-- What a subtune's play routine is timed by. -/
inductive TickSource where
  /-- The start of a frame. -/
  | frame
  /-- A timer. -/
  | timer
  deriving Repr, DecidableEq, Inhabited

/-- The fields of a header as stored. -/
structure Header where
  /-- The kind of file. -/
  format : Format
  /-- The version of the layout. -/
  version : UInt16
  /-- Where the program starts in the file. -/
  dataOffset : UInt16
  /-- The load address; 0 if the program starts with it. -/
  loadAddress : UInt16
  /-- The address of the init routine; 0 if it is the load address. -/
  initAddress : UInt16
  /-- The address of the play routine; 0 if init installs an interrupt handler. -/
  playAddress : UInt16
  /-- The number of subtunes. -/
  songs : UInt16
  /-- The subtune to start with. -/
  startSong : UInt16
  /-- A bit for each subtune: set if a timer plays it. -/
  speed : UInt32
  /-- The title. -/
  name : String
  /-- The composer. -/
  author : String
  /-- Year and publisher. -/
  released : String
  /-- Flag bits, reserved ones included. -/
  flags : UInt16
  /-- The first page free for relocation. -/
  startPage : UInt8
  /-- The number of pages free for relocation. -/
  pageLength : UInt8
  /-- The byte that places a second chip; 0 if there is none. -/
  secondSid : UInt8
  /-- The byte that places a third chip; 0 if there is none. -/
  thirdSid : UInt8
  deriving Repr, DecidableEq, Inhabited

/-! ## The flag bits -/

namespace Header.Flag

/-- The program is music data for an external player. -/
def externalPlayer : UInt16 := 0x0001

/-- In an RSID file: the program is BASIC. -/
def platformSpecific : UInt16 := 0x0002

/-- The video standard. -/
def clock : UInt16 := 0x000C

/-- The revision of the first chip. -/
def model1 : UInt16 := 0x0030

/-- The revision of the second chip. -/
def model2 : UInt16 := 0x00C0

/-- The revision of the third chip. -/
def model3 : UInt16 := 0x0300

/-- Bits without a meaning. -/
def reserved : UInt16 := 0xFC00

end Header.Flag

/-! ## Extra chips -/

/-- The base address that an extra chip's byte names.  Legal bytes are even and in `$42`–`$7F` or
`$E0`–`$FE`, so the address is `$D420`–`$D7E0` or `$DE00`–`$DFE0`. -/
def Chip.address? (byte : UInt8) : Option UInt16 :=
  let legal := byte % 2 = 0 ∧ ((0x42 ≤ byte ∧ byte ≤ 0x7F) ∨ (0xE0 ≤ byte ∧ byte ≤ 0xFE))
  if legal then some (0xD000 + byte.toUInt16 * 16) else none

/-- The two fields that place extra chips. -/
inductive ExtraChip where
  /-- The second chip. -/
  | second
  /-- The third chip. -/
  | third
  deriving Repr, DecidableEq, Inhabited

namespace ExtraChip

/-- The name of the field. -/
def fieldName : ExtraChip → String
  | second => "second_sid"
  | third => "third_sid"

/-- The first version of the layout that has the field. -/
def sinceVersion : ExtraChip → UInt16
  | second => 3
  | third => 4

end ExtraChip

/-- What becomes of an extra chip's byte, given the chips before it. -/
inductive ChipPlacement where
  /-- There is no such chip. -/
  | absent
  /-- The chip gets an address of its own. -/
  | placed (base : UInt16)
  /-- The address is another chip's already. -/
  | duplicate (base : UInt16)
  /-- The byte names no address. -/
  | invalid (byte : UInt8)
  deriving Repr, DecidableEq, Inhabited

namespace ChipPlacement

/-- The placement of a byte beside the chips at `bases`. -/
def of (bases : List UInt16) (byte : UInt8) : ChipPlacement :=
  if byte = 0 then absent
  else
    match Chip.address? byte with
    | some base => if base ∈ bases then duplicate base else placed base
    | none => invalid byte

/-- The chips with a placed one behind them. -/
def addTo (bases : List UInt16) : ChipPlacement → List UInt16
  | placed base => bases ++ [base]
  | absent | duplicate _ | invalid _ => bases

end ChipPlacement

namespace Header

/-! ## What the fields mean -/

/-- The bytes of a header of the first version. -/
def sizeV1 : Nat := 0x76

/-- The bytes of a header of any later version. -/
def sizeV2 : Nat := 0x7C

/-- The bytes of a header of a version. -/
def sizeOfVersion (version : UInt16) : Nat :=
  if version = 1 then sizeV1 else sizeV2

/-- The bytes of the header. -/
def size (h : Header) : Nat :=
  sizeOfVersion h.version

/-- The program starts with its load address. -/
def embedsLoadAddress (h : Header) : Bool :=
  h.loadAddress = 0 || h.format = .rsid

/-- All bits of a mask are set in the flags. -/
def hasFlag (h : Header) (mask : UInt16) : Bool :=
  h.flags &&& mask == mask

/-- The declared video standard. -/
def clock (h : Header) : ClockStandard :=
  .ofBits (h.flags >>> 2)

/-- The declared revisions of three chips.  A further chip without a declaration is like the
first. -/
def models (h : Header) : List ChipModel :=
  let first := ChipModel.ofBits (h.flags >>> 4)
  [first, (ChipModel.ofBits (h.flags >>> 6)).orElse first,
    (ChipModel.ofBits (h.flags >>> 8)).orElse first]

/-- The byte of an extra chip, or 0 where the layout has no such field. -/
def extraByte (h : Header) (chip : ExtraChip) : UInt8 :=
  if chip.sinceVersion ≤ h.version then
    match chip with
    | .second => h.secondSid
    | .third => h.thirdSid
  else 0

/-- The placement of the second chip. -/
def secondPlacement (h : Header) : ChipPlacement :=
  .of [Chip.firstBase] (h.extraByte .second)

/-- The chips before the third. -/
def firstBases (h : Header) : List UInt16 :=
  h.secondPlacement.addTo [Chip.firstBase]

/-- The placement of the third chip. -/
def thirdPlacement (h : Header) : ChipPlacement :=
  .of h.firstBases (h.extraByte .third)

/-- The base addresses of the chips, the first at `$D400`. -/
def chipBases (h : Header) : List UInt16 :=
  h.thirdPlacement.addTo h.firstBases

/-- What times a subtune, counted from 1.  Subtunes beyond the 32nd share its bit. -/
def tickSource (h : Header) (subtune : UInt16) : TickSource :=
  let bit := min (subtune.toNat - 1) 31
  if h.speed.toNat.testBit bit then .timer else .frame

end Header

end SidScore
