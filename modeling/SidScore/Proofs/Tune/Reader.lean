import SidScore.Proofs.Tune.Format

/-!
# Reading without proofs

The reader takes a byte only with a proof that the file has it.  Here it is written without those
proofs: every byte and every slice is asked for by its offset alone, and a file that ends before it
stops the reading with `none`.  What the reader asks for depends on what it has read, so whether it
can be stopped is a question about the order of its checks.  It cannot: on every list of bytes the
two readers give the same outcome.
-/

namespace SidScore

namespace BlindReader

variable (data : List UInt8)

/-! ## Asking for bytes -/

/-- The bytes from an offset on, where the file does not end before it. -/
def behind? (start : ℕ) : Option (List UInt8) :=
  if start ≤ data.length then some (data.drop start) else none

/-- A number of bytes from an offset on, where the file has them all. -/
def slice? (start length : ℕ) : Option (List UInt8) :=
  if start + length ≤ data.length then some ((data.drop start).take length) else none

/-- The word at an offset. -/
def word? (offset : ℕ) : Option UInt16 := do
  let high ← data[offset]?
  let low ← data[offset + 1]?
  return wordOf low high

/-- The double word at an offset. -/
def long? (offset : ℕ) : Option UInt32 := do
  let high ← word? data offset
  let low ← word? data (offset + 2)
  return (high.toUInt32 <<< 16) ||| low.toUInt32

/-- The text at an offset. -/
def text? (offset : ℕ) : Option String := do
  let field ← slice? data offset Header.textSize
  return Header.textOf field

/-! ## The reader -/

/-- The fields of the first version. -/
def fields? (format : Format) : Option Header := do
  return {
    format
    version := ← word? data 0x04
    dataOffset := ← word? data 0x06
    loadAddress := ← word? data 0x08
    initAddress := ← word? data 0x0A
    playAddress := ← word? data 0x0C
    songs := ← word? data 0x0E
    startSong := ← word? data 0x10
    speed := ← long? data 0x12
    name := ← text? data 0x16
    author := ← text? data 0x36
    released := ← text? data 0x56
    flags := 0
    startPage := 0
    pageLength := 0
    secondSid := 0
    thirdSid := 0 }

/-- The fields that later versions add. -/
def addedFields? (header : Header) : Option Header := do
  return { header with
    flags := ← word? data 0x76
    startPage := ← data[0x78]?
    pageLength := ← data[0x79]?
    secondSid := ← data[0x7A]?
    thirdSid := ← data[0x7B]? }

/-- The fields of a file of a known format: first version and offset alone, then, once the file is
known to be long enough for the version, all the others. -/
def decodeLong? (format : Format) : Option (Except TuneFault Header) := do
  let version ← word? data 0x04
  if version = 0 ∨ 4 < version then return .error (.header (.unknownVersion version))
  if format = .rsid ∧ version = 1 then return .error (.header .versionBeforeRsid)
  let size := Header.sizeOfVersion version
  let offset ← word? data 0x06
  if offset.toNat ≠ size then
    return .error (.header (.wrongDataOffset (UInt16.ofNat size) version offset))
  if data.length < size then return .error (.tooShort size data.length)
  let header ← fields? data format
  if version = 1 then return .ok header
  let header ← addedFields? data header
  return .ok header

/-- The header at the start of a file. -/
def header? : Option (Except TuneFault Header) := do
  if data.length < Header.sizeV1 then return .error (.tooShort Header.sizeV1 data.length)
  let magic ← slice? data 0 4
  match Format.ofMagic? magic with
  | none => return .error (.header (.unknownMagic magic))
  | some format =>
    let outcome ← decodeLong? data format
    return do
      let header ← outcome
      header.checkSongs
      header.check
      pure header

/-- The program behind a header. -/
def body? (header : Header) : Option (Except TuneFault TuneFile) := do
  let body ← behind? data header.size
  if !header.embedsLoadAddress then return .ok ⟨header, body, header.loadAddress⟩
  if body.length < 2 then return .error (.tooShort (header.size + 2) data.length)
  let low ← body[0]?
  let high ← body[1]?
  let program ← behind? body 2
  return .ok ⟨header, program, wordOf low high⟩

/-- A whole file. -/
def file? : Option (Except TuneFault TuneFile) := do
  match ← header? data with
  | .error fault => return .error fault
  | .ok header =>
    let outcome ← body? data header
    return do
      let file ← outcome
      file.check
      pure file

/-! ## It is never stopped -/

variable {data}

lemma word?_eq {offset : ℕ} (h : offset + 2 ≤ data.length) :
    word? data offset = some (Header.wordAt data offset h) := by
  have high : data[offset]? = some data[offset] := List.getElem?_eq_getElem (by omega)
  have low : data[offset + 1]? = some data[offset + 1] := List.getElem?_eq_getElem (by omega)
  rw [word?, high, low]
  rfl

lemma long?_eq {offset : ℕ} (h : offset + 4 ≤ data.length) :
    long? data offset = some (Header.longAt data offset h) := by
  rw [long?, word?_eq (by omega), word?_eq (by omega)]
  rfl

lemma text?_eq {offset : ℕ} (h : offset + 32 ≤ data.length) :
    text? data offset = some (Header.textAt data offset) := by
  have slice : slice? data offset Header.textSize =
      some ((data.drop offset).take Header.textSize) := if_pos h
  rw [text?, slice]
  rfl

lemma fields?_eq (format : Format) (h : Header.sizeV1 ≤ data.length) :
    fields? data format = some (Header.decodeFields format data h) := by
  have long : 0x76 ≤ data.length := h
  rw [fields?, word?_eq (by omega), word?_eq (by omega), word?_eq (by omega), word?_eq (by omega),
    word?_eq (by omega), word?_eq (by omega), word?_eq (by omega), long?_eq (by omega),
    text?_eq (by omega), text?_eq (by omega), text?_eq (by omega)]
  rfl

lemma addedFields?_eq {header : Header} (h : Header.sizeV2 ≤ data.length) :
    addedFields? data header = some (header.withAddedFields data h) := by
  have long : 0x7C ≤ data.length := h
  have byte (i : ℕ) (hi : i < 0x7C) : data[i]? = some (data.get ⟨i, by omega⟩) :=
    List.getElem?_eq_getElem (by omega)
  rw [addedFields?, word?_eq (by omega), byte 0x78 (by omega), byte 0x79 (by omega),
    byte 0x7A (by omega), byte 0x7B (by omega)]
  rfl

lemma decodeLong?_eq {format : Format} (h : Header.sizeV1 ≤ data.length) :
    decodeLong? data format = some (Header.decodeLong format data h) := by
  have long : 0x76 ≤ data.length := h
  have version : word? data 0x04 = some (Header.decodeFields format data h).version :=
    word?_eq (by omega)
  have offset : word? data 0x06 = some (Header.decodeFields format data h).dataOffset :=
    word?_eq (by omega)
  have fields := fields?_eq format h
  simp only [decodeLong?, Header.decodeLong, version, offset, fields, Option.bind_eq_bind,
    Option.bind_some, Option.pure_def]
  generalize Header.decodeFields format data h = header
  by_cases unknown : header.version = 0 ∨ 4 < header.version
  · rw [if_pos unknown, if_pos unknown]
  rw [if_neg unknown, if_neg unknown]
  by_cases early : format = .rsid ∧ header.version = 1
  · rw [if_pos early, if_pos early]
  rw [if_neg early, if_neg early]
  by_cases wrong : header.dataOffset.toNat ≠ Header.sizeOfVersion header.version
  · rw [if_pos wrong, if_pos wrong]
  rw [if_neg wrong, if_neg wrong]
  by_cases first : header.version = 1
  · have size : Header.sizeOfVersion header.version = Header.sizeV1 := if_pos first
    rw [if_pos first, if_pos first, size, if_neg (Nat.not_lt_of_le h)]
  · have size : Header.sizeOfVersion header.version = Header.sizeV2 := if_neg first
    rw [if_neg first, if_neg first, size]
    by_cases enough : Header.sizeV2 ≤ data.length
    · rw [if_neg (Nat.not_lt_of_le enough), dif_pos enough, addedFields?_eq enough]
      rfl
    · rw [if_pos (Nat.lt_of_not_le enough), dif_neg enough]

lemma header?_eq : header? data = some (Header.parse data) := by
  by_cases short : data.length < Header.sizeV1
  · simp [header?, Header.parse, Header.decode, short, bind, Except.bind]
  have long : Header.sizeV1 ≤ data.length := Nat.le_of_not_lt short
  have magic : slice? data 0 4 = some (data.take 4) :=
    if_pos (Nat.le_trans (by decide) long)
  simp only [header?, Header.parse, Header.decode, if_neg short, dif_neg short, magic,
    Option.bind_eq_bind, Option.bind_some, Option.pure_def]
  cases Format.ofMagic? (data.take 4) with
  | none => rfl
  | some format =>
    simp only [decodeLong?_eq long, Option.bind_some]
    cases Header.decodeLong format data long with
    | error _ => rfl
    | ok header =>
      simp only [bind, Except.bind]
      cases header.checkSongs <;> rfl

/-- Behind a header that the file contains. -/
lemma body?_eq {header : Header} (h : header.size ≤ data.length) :
    body? data header = some (TuneFile.ofBody header data.length (data.drop header.size)) := by
  have body : behind? data header.size = some (data.drop header.size) := if_pos h
  simp only [body?, TuneFile.ofBody, body, Option.bind_eq_bind, Option.bind_some, Option.pure_def]
  cases header.embedsLoadAddress with
  | false => rfl
  | true =>
    match data.drop header.size with
    | [] => rfl
    | [_] => rfl
    | low :: high :: program => simp [behind?]

/-- A header that is read ends inside the file. -/
lemma size_le_length {header : Header} (h : Header.parse data = .ok header) :
    header.size ≤ data.length := by
  obtain ⟨⟨rules, -⟩, spells⟩ := Header.parse_decides.of_ok h
  rw [spells.size_eq]
  exact rules.2.2.1.2.2.2

/-- The reader without proofs gives the reader's outcome on every list of bytes. -/
lemma file?_eq : file? data = some (TuneFile.parse data) := by
  simp only [file?, TuneFile.parse, header?_eq, Option.bind_eq_bind, Option.bind_some,
    Option.pure_def]
  cases hheader : Header.parse data with
  | error _ => rfl
  | ok header =>
    simp only [body?_eq (size_le_length hheader), Option.bind_some]
    rfl

end BlindReader

/-! ## What reading does -/

namespace TuneFile

open TuneFormat

/-- **The reader accepts exactly the format.**  A file is read where its bytes obey the format, and
nowhere else.  What is read is then the load address that the bytes name and, as the program, all
that follows it.  And no list of bytes makes the reader ask for a byte that is not there. -/
theorem parse_accepts_exactly (data : List UInt8) :
    ((∃ file, TuneFile.parse data = .ok file) ↔ Accepted data) ∧
      (∀ file, TuneFile.parse data = .ok file →
        file.loadAddress.toNat = TuneFormat.loadAddress data ∧
          ∃ front, data = front ++ file.program ∧ front.length = programStart data) ∧
      BlindReader.file? data = some (TuneFile.parse data) := by
  refine ⟨parse_decides.exists_ok_iff, fun file found => ?_, BlindReader.file?_eq⟩
  obtain ⟨-, reads⟩ := parse_decides.of_ok found
  exact ⟨reads.address, reads.program⟩

end TuneFile

end SidScore
