import SidScore.Tune.Fault

/-!
# The bytes of a header

All words are stored high byte first.  The three texts are fields of 32 bytes in Latin-1, ended by
a zero byte if they are shorter.  The first version of the layout ends behind them; later ones go
on with six bytes.

| offset | bytes | field                         |
|--------|-------|-------------------------------|
| `$00`  | 4     | magic word                    |
| `$04`  | 2     | version                       |
| `$06`  | 2     | offset of the program         |
| `$08`  | 2     | load address                  |
| `$0A`  | 2     | init address                  |
| `$0C`  | 2     | play address                  |
| `$0E`  | 2     | number of subtunes            |
| `$10`  | 2     | starting subtune              |
| `$12`  | 4     | speed bits                    |
| `$16`  | 32    | title                         |
| `$36`  | 32    | composer                      |
| `$56`  | 32    | release                       |
| `$76`  | 2     | flags                         |
| `$78`  | 1     | first free page               |
| `$79`  | 1     | number of free pages          |
| `$7A`  | 1     | second chip                   |
| `$7B`  | 1     | third chip                    |

Reading takes a byte only where the file is known to be long enough, so no access can leave it.
-/

namespace SidScore

namespace Format

/-- The magic word that a file of the format starts with. -/
def magic : Format → List UInt8
  | psid => [0x50, 0x53, 0x49, 0x44]
  | rsid => [0x52, 0x53, 0x49, 0x44]

/-- The format that starts with a magic word. -/
def ofMagic? (bytes : List UInt8) : Option Format :=
  if bytes = psid.magic then some psid
  else if bytes = rsid.magic then some rsid
  else none

end Format

namespace Header

/-! ## Words -/

/-- A word, high byte first. -/
def wordBytes (w : UInt16) : List UInt8 :=
  [highByte w, lowByte w]

/-- A double word, highest byte first. -/
def longBytes (w : UInt32) : List UInt8 :=
  wordBytes (w >>> 16).toUInt16 ++ wordBytes w.toUInt16

/-- The word at an offset. -/
def wordAt (data : List UInt8) (offset : Nat) (_h : offset + 2 ≤ data.length) : UInt16 :=
  wordOf data[offset + 1] data[offset]

/-- The double word at an offset. -/
def longAt (data : List UInt8) (offset : Nat) (_h : offset + 4 ≤ data.length) : UInt32 :=
  ((wordAt data offset (by omega)).toUInt32 <<< 16)
    ||| (wordAt data (offset + 2) (by omega)).toUInt32

/-! ## Texts -/

/-- The bytes of a text field. -/
def textSize : Nat := 32

/-- The text of a field: its bytes before the first zero, each a character of Latin-1. -/
def textOf (field : List UInt8) : String :=
  String.ofList ((field.takeWhile (· != 0)).map fun byte => Char.ofNat byte.toNat)

/-- The byte of a character, a question mark where Latin-1 has none. -/
def charByte (c : Char) : UInt8 :=
  if c.toNat < 256 then UInt8.ofNat c.toNat else 0x3F

/-- The field of a text: as much of it as fits, and zeros behind. -/
def textBytes (text : String) : List UInt8 :=
  let bytes := (text.toList.take textSize).map charByte
  bytes ++ List.replicate (textSize - bytes.length) 0

/-- The text at an offset. -/
def textAt (data : List UInt8) (offset : Nat) : String :=
  textOf ((data.drop offset).take textSize)

/-! ## Writing -/

/-- The fields that every version has. -/
def commonBytes (h : Header) : List UInt8 :=
  h.format.magic ++ wordBytes h.version ++ wordBytes h.dataOffset ++ wordBytes h.loadAddress
    ++ wordBytes h.initAddress ++ wordBytes h.playAddress ++ wordBytes h.songs
    ++ wordBytes h.startSong ++ longBytes h.speed ++ textBytes h.name ++ textBytes h.author
    ++ textBytes h.released

/-- The fields that later versions add. -/
def addedBytes (h : Header) : List UInt8 :=
  wordBytes h.flags ++ [h.startPage, h.pageLength, h.secondSid, h.thirdSid]

/-- The header as a file stores it. -/
def toBytes (h : Header) : List UInt8 :=
  if 2 ≤ h.version then h.commonBytes ++ h.addedBytes else h.commonBytes

/-! ## Reading -/

/-- The fields of a file whose version and length are known to match. -/
def decodeFields (format : Format) (data : List UInt8) (h : sizeV1 ≤ data.length) : Header :=
  have h : 0x76 ≤ data.length := h
  { format
    version := wordAt data 0x04 (by omega)
    dataOffset := wordAt data 0x06 (by omega)
    loadAddress := wordAt data 0x08 (by omega)
    initAddress := wordAt data 0x0A (by omega)
    playAddress := wordAt data 0x0C (by omega)
    songs := wordAt data 0x0E (by omega)
    startSong := wordAt data 0x10 (by omega)
    speed := longAt data 0x12 (by omega)
    name := textAt data 0x16
    author := textAt data 0x36
    released := textAt data 0x56
    flags := 0
    startPage := 0
    pageLength := 0
    secondSid := 0
    thirdSid := 0 }

/-- The header with the fields that later versions add. -/
def withAddedFields (header : Header) (data : List UInt8) (h : sizeV2 ≤ data.length) : Header :=
  have h : 0x7C ≤ data.length := h
  { header with
    flags := wordAt data 0x76 (by omega)
    startPage := data[0x78]
    pageLength := data[0x79]
    secondSid := data[0x7A]
    thirdSid := data[0x7B] }

/-- Reads the fields of a file that is long enough for the first version, once its format is
known. -/
def decodeLong (format : Format) (data : List UInt8) (h : sizeV1 ≤ data.length) :
    Except TuneFault Header :=
  let header := decodeFields format data h
  let size := sizeOfVersion header.version
  if header.version = 0 ∨ 4 < header.version then
    .error (.header (.unknownVersion header.version))
  else if format = .rsid ∧ header.version = 1 then .error (.header .versionBeforeRsid)
  else if header.dataOffset.toNat ≠ size then
    .error (.header (.wrongDataOffset (UInt16.ofNat size) header.version header.dataOffset))
  else if header.version = 1 then .ok header
  else if long : sizeV2 ≤ data.length then .ok (header.withAddedFields data long)
  else .error (.tooShort sizeV2 data.length)

/-- Counts and numbers of subtunes range from 1 to 256. -/
def songInRange (song : UInt16) : Bool :=
  1 ≤ song && song ≤ 256

/-- The number of subtunes and the starting one are in range. -/
def checkSongs (h : Header) : Except TuneFault Unit :=
  if !songInRange h.songs then .error (.header (.songCount h.songs))
  else if !songInRange h.startSong then .error (.header (.startSong h.startSong))
  else .ok ()

/-- Reads the fields at the start of a file, and checks all that holds for both formats. -/
def decode (data : List UInt8) : Except TuneFault Header :=
  if short : data.length < sizeV1 then .error (.tooShort sizeV1 data.length)
  else
    match Format.ofMagic? (data.take 4) with
    | none => .error (.header (.unknownMagic (data.take 4)))
    | some format => do
      let header ← decodeLong format data (Nat.le_of_not_lt short)
      header.checkSongs
      pure header

/-! ## The rules for RSID -/

/-- The address is in a ROM, in the chips' registers or in memory that the system uses. -/
def inSystemArea (address : UInt16) : Bool :=
  address ≤ 0x07E7 || (0xA000 ≤ address && address ≤ 0xBFFF) || 0xD000 ≤ address

/-- The init routine of an RSID lies in free memory, unless BASIC runs it. -/
def checkInit (h : Header) (init : UInt16) : Except TuneFault Unit :=
  if h.hasFlag Flag.platformSpecific then .ok ()
  else if inSystemArea init then .error (.header (.rsidInitAddress init))
  else .ok ()

/-- An RSID leaves play routine, timers and load address to the program.  An init address of 0 is
checked once the load address is known. -/
def check (h : Header) : Except TuneFault Unit :=
  match h.format with
  | .psid => .ok ()
  | .rsid =>
    if h.playAddress ≠ 0 then .error (.header .rsidPlayAddress)
    else if h.speed ≠ 0 then .error (.header .rsidSpeed)
    else if h.loadAddress ≠ 0 then .error (.header .rsidLoadAddress)
    else if h.initAddress ≠ 0 then h.checkInit h.initAddress
    else .ok ()

/-- Reads and checks the header at the start of a file. -/
def parse (data : List UInt8) : Except TuneFault Header := do
  let header ← decode data
  header.check
  pure header

end Header

end SidScore
