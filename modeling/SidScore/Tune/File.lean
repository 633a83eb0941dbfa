import SidScore.Tune.Layout

/-!
# A tune file

A header and the program behind it.  Where the header leaves the load address open, the program's
first two bytes are that address, low byte first, and are not part of what is loaded.
-/

namespace SidScore

/-- A tune: its header, and the program with the address it is loaded at. -/
structure TuneFile where
  /-- The header. -/
  header : Header
  /-- The bytes to load. -/
  program : List UInt8
  /-- The address of the first of them. -/
  loadAddress : UInt16
  deriving Repr, DecidableEq, Inhabited

namespace TuneFile

/-- The address of the init routine. -/
def initAddress (file : TuneFile) : UInt16 :=
  if file.header.initAddress = 0 then file.loadAddress else file.header.initAddress

/-- The address of the play routine, if the header declares one. -/
def playAddress? (file : TuneFile) : Option UInt16 :=
  if file.header.playAddress = 0 then none else some file.header.playAddress

/-- The tune has this subtune, counted from 1. -/
def checkSubtune (file : TuneFile) (subtune : UInt16) : Except TuneFault Unit :=
  if 1 ≤ subtune ∧ subtune ≤ file.header.songs then .ok ()
  else .error (.noSuchSubtune subtune file.header.songs)

/-- Separates the load address from the bytes behind the header. -/
def ofBody (header : Header) (length : Nat) (body : List UInt8) : Except TuneFault TuneFile :=
  if header.embedsLoadAddress then
    match body with
    | low :: high :: program => .ok ⟨header, program, wordOf low high⟩
    | _ => .error (.tooShort (header.size + 2) length)
  else .ok ⟨header, body, header.loadAddress⟩

/-- Checks the init routine of an RSID that starts at its load address. -/
def check (file : TuneFile) : Except TuneFault Unit :=
  if file.header.format = .rsid ∧ file.header.initAddress = 0 then
    file.header.checkInit file.initAddress
  else .ok ()

/-- Reads a whole file. -/
def parse (data : List UInt8) : Except TuneFault TuneFile := do
  let header ← Header.parse data
  let file ← ofBody header data.length (data.drop header.size)
  file.check
  pure file

end TuneFile

end SidScore
