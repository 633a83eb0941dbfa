import SidScore.Proofs.Word
import SidScore.Tune.File

/-!
# Which files are read

The format of a tune file, said once more as what must hold of the bytes, with no word of how they
are read: `Accepted`.  The reader accepts exactly the files of that format, and what it makes of
one is again said in terms of the bytes.

The reader's rules stand in four functions.  Some are asked before the fields that they concern are
known to exist, and the rule for the init routine is asked in one place or another depending on the
fields.  So each function is given one statement, `Decides`: it succeeds exactly where its own part
of the format holds, and its result carries what the next function goes by.  The statements compose
along the reader's own sequence, and at the end the parts together are the format.

Nothing here says that the reader stays inside the file; that is the subject of the next module.
-/

namespace SidScore

/-! ## Outcomes that decide a property -/

/-- The outcome is a result with `post` where `pre` holds, and a fault elsewhere. -/
def Decides {ε α : Type} (outcome : Except ε α) (pre : Prop) (post : α → Prop) : Prop :=
  match outcome with
  | .ok result => pre ∧ post result
  | .error _ => ¬ pre

namespace Decides

variable {ε α β : Type} {pre later : Prop} {post : α → Prop} {final : β → Prop}

/-- A test in front of an outcome. -/
lemma ite_error {bad : Prop} [Decidable bad] (fault : ε) {outcome : Except ε α}
    (h : ¬ bad → Decides outcome pre post) :
    Decides (if bad then .error fault else outcome) (¬ bad ∧ pre) post := by
  by_cases hbad : bad
  · rw [if_pos hbad]
    exact fun both => both.1 hbad
  · rw [if_neg hbad]
    have rest := h hbad
    cases outcome with
    | ok result => exact ⟨⟨hbad, rest.1⟩, rest.2⟩
    | error _ => exact fun both => rest both.2

/-- One outcome after another. -/
lemma bind {outcome : Except ε α} {next : α → Except ε β} (first : Decides outcome pre post)
    (second : ∀ result, pre → post result → Decides (next result) later final) :
    Decides (outcome >>= next) (pre ∧ later) final := by
  cases outcome with
  | ok result =>
    have rest := second result first.1 first.2
    change Decides (next result) _ _
    cases hnext : next result with
    | ok value =>
      rw [hnext] at rest
      exact ⟨⟨first.1, rest.1⟩, rest.2⟩
    | error _ =>
      rw [hnext] at rest
      exact fun both => rest both.2
  | error _ => exact fun both => first both.1

/-- The same property in other words. -/
lemma congr {outcome : Except ε α} {other : Prop} (h : Decides outcome pre post)
    (same : pre ↔ other) : Decides outcome other post :=
  propext same ▸ h

/-- A check in front of a result. -/
lemma before_pure {check : Except ε Unit} (h : Decides check pre fun _ => True) (result : α)
    (holds : pre → post result) : Decides (check >>= fun _ => pure result) pre post := by
  cases check with
  | ok _ => exact ⟨h.1, holds h.1⟩
  | error _ => exact h

lemma exists_ok_iff {outcome : Except ε α} (h : Decides outcome pre post) :
    (∃ result, outcome = .ok result) ↔ pre := by
  cases outcome with
  | ok result => exact ⟨fun _ => h.1, fun _ => ⟨result, rfl⟩⟩
  | error _ =>
    constructor
    · rintro ⟨_, found⟩
      cases found
    · exact fun holds => absurd holds h

lemma of_ok {outcome : Except ε α} (h : Decides outcome pre post) {result : α}
    (found : outcome = .ok result) : pre ∧ post result := by
  subst found
  exact h

end Decides

/-! ## The format -/

namespace TuneFormat

variable (data : List UInt8)

/-- The byte at an offset, as a number; 0 behind the end. -/
def byteAt (offset : ℕ) : ℕ :=
  (data.getD offset 0).toNat

/-- The number that two bytes spell, the high one first. -/
def bigWord (offset : ℕ) : ℕ :=
  byteAt data offset * 256 + byteAt data (offset + 1)

/-- The number that two bytes spell, the low one first. -/
def littleWord (offset : ℕ) : ℕ :=
  byteAt data offset + byteAt data (offset + 1) * 256

/-- The number that four bytes spell, the highest first. -/
def bigLong (offset : ℕ) : ℕ :=
  bigWord data offset * 65536 + bigWord data (offset + 2)

/-- The file says that it is an RSID. -/
def IsRsid : Prop :=
  data.take 4 = [0x52, 0x53, 0x49, 0x44]

/-- The file says that it is a PSID. -/
def IsPsid : Prop :=
  data.take 4 = [0x50, 0x53, 0x49, 0x44]

/-- The version of the layout. -/
def version : ℕ :=
  bigWord data 0x04

/-- The bytes that the header takes in that version. -/
def headerSize : ℕ :=
  if version data = 1 then 0x76 else 0x7C

/-- The load address as the header has it. -/
def loadWord : ℕ :=
  bigWord data 0x08

/-- The init address as the header has it. -/
def initWord : ℕ :=
  bigWord data 0x0A

/-- Where the program is loaded: the header's word or, if that is 0, the first two bytes behind the
header. -/
def loadAddress : ℕ :=
  if loadWord data = 0 then littleWord data (headerSize data) else loadWord data

/-- Where the program starts in the file. -/
def programStart : ℕ :=
  if loadWord data = 0 then headerSize data + 2 else headerSize data

/-- Where init starts: the header's word or, if that is 0, the load address. -/
def initAddress : ℕ :=
  if initWord data = 0 then loadAddress data else initWord data

/-- The flag of an RSID that is a BASIC program: bit 1 of the flags. -/
def IsBasic : Prop :=
  (bigWord data 0x76).testBit 1 = true

/-- The address is free: in no ROM, not among the chips' registers, and not in the memory that the
system works with. -/
def FreeAddress (address : ℕ) : Prop :=
  ¬ address ≤ 0x07E7 ∧ ¬ (0xA000 ≤ address ∧ address ≤ 0xBFFF) ∧ ¬ 0xD000 ≤ address

/-- **The format of a tune file**, as what must hold of its bytes. -/
structure Accepted : Prop where
  /-- The fields of the first version are there. -/
  long : 0x76 ≤ data.length
  /-- The file starts with one of the magic words. -/
  magic : IsPsid data ∨ IsRsid data
  /-- The version is one of four. -/
  version_range : 1 ≤ version data ∧ version data ≤ 4
  /-- RSID starts with the second. -/
  rsid_version : ¬ (IsRsid data ∧ version data = 1)
  /-- The program starts right behind the header. -/
  data_offset : bigWord data 0x06 = headerSize data
  /-- The fields of the version are there. -/
  header_long : headerSize data ≤ data.length
  /-- The number of subtunes is in range. -/
  songs : 1 ≤ bigWord data 0x0E ∧ bigWord data 0x0E ≤ 256
  /-- The starting subtune is in range. -/
  start_song : 1 ≤ bigWord data 0x10 ∧ bigWord data 0x10 ≤ 256
  /-- An RSID leaves play routine, timers and load address to the program. -/
  rsid_fields : IsRsid data →
    bigWord data 0x0C = 0 ∧ bigLong data 0x12 = 0 ∧ loadWord data = 0
  /-- A load address that is left open stands behind the header. -/
  embedded : loadWord data = 0 → headerSize data + 2 ≤ data.length
  /-- Init of an RSID lies in free memory, unless the program is BASIC. -/
  rsid_init : IsRsid data → ¬ IsBasic data → FreeAddress (initAddress data)

/-! ### The parts that the reader asks for one after the other -/

/-- The rules about version, offset and length. -/
def LayoutRules : Prop :=
  (1 ≤ version data ∧ version data ≤ 4) ∧ ¬ (IsRsid data ∧ version data = 1) ∧
    bigWord data 0x06 = headerSize data ∧ headerSize data ≤ data.length

/-- The rules about subtunes. -/
def SongRules : Prop :=
  (1 ≤ bigWord data 0x0E ∧ bigWord data 0x0E ≤ 256) ∧
    (1 ≤ bigWord data 0x10 ∧ bigWord data 0x10 ≤ 256)

/-- The rules that hold for both formats. -/
def CommonRules : Prop :=
  0x76 ≤ data.length ∧ (IsPsid data ∨ IsRsid data) ∧ LayoutRules data ∧ SongRules data

/-- The rules for the header of an RSID. -/
def RsidRules : Prop :=
  IsRsid data → bigWord data 0x0C = 0 ∧ bigLong data 0x12 = 0 ∧ loadWord data = 0 ∧
    (initWord data ≠ 0 → ¬ IsBasic data → FreeAddress (initWord data))

/-- The rule for an init routine that starts at the load address. -/
def OpenInitRule : Prop :=
  IsRsid data → initWord data = 0 → ¬ IsBasic data → FreeAddress (loadAddress data)

/-- The parts make up the format. -/
lemma accepted_iff : Accepted data ↔
    (CommonRules data ∧ RsidRules data) ∧
      (loadWord data = 0 → headerSize data + 2 ≤ data.length) ∧ OpenInitRule data := by
  constructor
  · intro h
    refine ⟨⟨⟨h.long, h.magic, ⟨h.version_range, h.rsid_version, h.data_offset, h.header_long⟩,
      h.songs, h.start_song⟩, fun rsid => ?_⟩, h.embedded, fun rsid zero basic => ?_⟩
    · obtain ⟨play, speed, load⟩ := h.rsid_fields rsid
      refine ⟨play, speed, load, fun own basic => ?_⟩
      have init := h.rsid_init rsid basic
      rwa [initAddress, if_neg own] at init
    · have init := h.rsid_init rsid basic
      rwa [initAddress, if_pos zero] at init
  · rintro ⟨⟨⟨long, magic, ⟨range, first, offset, header⟩, songs, start⟩, rsidRules⟩, embedded,
      open_⟩
    refine ⟨long, magic, range, first, offset, header, songs, start, fun rsid => ?_, embedded,
      fun rsid basic => ?_⟩
    · obtain ⟨play, speed, load, -⟩ := rsidRules rsid
      exact ⟨play, speed, load⟩
    · rw [initAddress]
      split_ifs with zero
      · exact open_ rsid zero basic
      · exact (rsidRules rsid).2.2.2 zero basic

/-! ## Reading words -/

lemma byteAt_eq {offset : ℕ} (h : offset < data.length) :
    byteAt data offset = data[offset].toNat := by
  rw [byteAt, List.getD_eq_getElem data 0 h]

lemma toNat_wordAt {offset : ℕ} (h : offset + 2 ≤ data.length) :
    (Header.wordAt data offset h).toNat = bigWord data offset := by
  rw [Header.wordAt, toNat_wordOf, bigWord, byteAt_eq data (by omega), byteAt_eq data (by omega)]

lemma toNat_longAt {offset : ℕ} (h : offset + 4 ≤ data.length) :
    (Header.longAt data offset h).toNat = bigLong data offset := by
  rw [Header.longAt, toNat_longOf, toNat_wordAt, toNat_wordAt, bigLong]

lemma word_eq_zero_iff {w : UInt16} {n : ℕ} (h : w.toNat = n) : w = 0 ↔ n = 0 := by
  rw [← h, ← UInt16.toNat_inj]
  rfl

/-- The fields of a header that later rules ask for are what the bytes spell. -/
structure Spells (header : Header) : Prop where
  format : data.take 4 = header.format.magic
  version : header.version.toNat = version data
  loadAddress : header.loadAddress.toNat = loadWord data
  initAddress : header.initAddress.toNat = initWord data
  playAddress : header.playAddress.toNat = bigWord data 0x0C
  songs : header.songs.toNat = bigWord data 0x0E
  startSong : header.startSong.toNat = bigWord data 0x10
  speed : header.speed.toNat = bigLong data 0x12
  flags : TuneFormat.version data ≠ 1 → header.flags.toNat = bigWord data 0x76

variable {data}

lemma Spells.rsid_iff {header : Header} (h : Spells data header) :
    IsRsid data ↔ header.format = .rsid := by
  rw [IsRsid, h.format]
  cases header.format <;> decide

lemma Spells.size_eq {header : Header} (h : Spells data header) :
    header.size = headerSize data := by
  have first : header.version = 1 ↔ TuneFormat.version data = 1 := by
    rw [← h.version, ← UInt16.toNat_inj]
    rfl
  simp only [Header.size, Header.sizeOfVersion, Header.sizeV1, Header.sizeV2, headerSize, first]

end TuneFormat

/-! ## The header -/

namespace Header

open TuneFormat

variable {data : List UInt8}

/-- The fields of the first version are what the bytes spell. -/
lemma spells_decodeFields {format : Format} (h : sizeV1 ≤ data.length)
    (magic : data.take 4 = format.magic) (first : TuneFormat.version data = 1) :
    Spells data (decodeFields format data h) where
  format := magic
  version := toNat_wordAt data _
  loadAddress := toNat_wordAt data _
  initAddress := toNat_wordAt data _
  playAddress := toNat_wordAt data _
  songs := toNat_wordAt data _
  startSong := toNat_wordAt data _
  speed := toNat_longAt data _
  flags later := absurd first later

/-- So are those that later versions add. -/
lemma spells_withAddedFields {format : Format} (h : sizeV1 ≤ data.length)
    (long : sizeV2 ≤ data.length) (magic : data.take 4 = format.magic) :
    Spells data ((decodeFields format data h).withAddedFields data long) where
  format := magic
  version := toNat_wordAt data _
  loadAddress := toNat_wordAt data _
  initAddress := toNat_wordAt data _
  playAddress := toNat_wordAt data _
  songs := toNat_wordAt data _
  startSong := toNat_wordAt data _
  speed := toNat_longAt data _
  flags _ := toNat_wordAt data _

/-- The rules about version, offset and length. -/
lemma decodeLong_decides {format : Format} (h : sizeV1 ≤ data.length)
    (magic : data.take 4 = format.magic) :
    Decides (decodeLong format data h) (LayoutRules data) (Spells data) := by
  set header := decodeFields format data h with hheader
  have hversion : header.version.toNat = TuneFormat.version data := toNat_wordAt data _
  have hoffset : header.dataOffset.toNat = bigWord data 0x06 := toNat_wordAt data _
  have first : header.version = 1 ↔ TuneFormat.version data = 1 := by
    rw [← hversion, ← UInt16.toNat_inj]
    rfl
  have hsize : sizeOfVersion header.version = headerSize data := by
    simp only [sizeOfVersion, sizeV1, sizeV2, headerSize, first]
  have hrsid : IsRsid data ↔ format = .rsid := by
    rw [IsRsid, magic]
    cases format <;> decide
  have unknown : header.version = 0 ∨ 4 < header.version ↔
      ¬ (1 ≤ TuneFormat.version data ∧ TuneFormat.version data ≤ 4) := by
    have four : UInt16.toNat 4 = 4 := rfl
    rw [word_eq_zero_iff hversion, UInt16.lt_iff_toNat_lt, hversion, four]
    omega
  have rest : Decides
      (if header.version = 1 then .ok header
        else if long : sizeV2 ≤ data.length then .ok (header.withAddedFields data long)
        else .error (.tooShort sizeV2 data.length) : Except TuneFault Header)
      (headerSize data ≤ data.length) (Spells data) := by
    by_cases hfirst : header.version = 1
    · rw [if_pos hfirst]
      have size : headerSize data = 0x76 := if_pos (first.mp hfirst)
      exact ⟨size ▸ h, spells_decodeFields h magic (first.mp hfirst)⟩
    · rw [if_neg hfirst]
      have size : headerSize data = 0x7C := if_neg (mt first.mpr hfirst)
      by_cases long : sizeV2 ≤ data.length
      · rw [dif_pos long]
        exact ⟨size ▸ long, spells_withAddedFields h long magic⟩
      · rw [dif_neg long]
        intro enough
        rw [size] at enough
        exact long enough
  have all := Decides.ite_error (TuneFault.header (.unknownVersion header.version))
    fun _ : ¬ (header.version = 0 ∨ 4 < header.version) =>
      Decides.ite_error (TuneFault.header .versionBeforeRsid)
        fun _ : ¬ (format = .rsid ∧ header.version = 1) =>
          Decides.ite_error (TuneFault.header (.wrongDataOffset
              (UInt16.ofNat (sizeOfVersion header.version)) header.version header.dataOffset))
            fun _ : ¬ (header.dataOffset.toNat ≠ sizeOfVersion header.version) => rest
  refine all.congr ?_
  rw [LayoutRules, unknown, not_not, hrsid, first, hoffset, hsize, ne_eq, not_not]

lemma songInRange_iff {song : UInt16} {n : ℕ} (h : song.toNat = n) :
    songInRange song = true ↔ 1 ≤ n ∧ n ≤ 256 := by
  have one : UInt16.toNat 1 = 1 := rfl
  have last : UInt16.toNat 256 = 256 := rfl
  rw [songInRange, Bool.and_eq_true, decide_eq_true_iff, decide_eq_true_iff,
    UInt16.le_iff_toNat_le, UInt16.le_iff_toNat_le, h, one, last]

lemma checkSongs_decides {header : Header} (h : Spells data header) :
    Decides header.checkSongs (SongRules data) fun _ => True := by
  have passes : Decides (.ok () : Except TuneFault Unit) True fun _ => True := ⟨trivial, trivial⟩
  have all := Decides.ite_error (TuneFault.header (.songCount header.songs))
    fun _ : ¬ (!songInRange header.songs) = true =>
      Decides.ite_error (TuneFault.header (.startSong header.startSong))
        fun _ : ¬ (!songInRange header.startSong) = true => passes
  refine all.congr ?_
  rw [Bool.not_eq_true', Bool.not_eq_false, Bool.not_eq_true', Bool.not_eq_false, and_true,
    songInRange_iff h.songs, songInRange_iff h.startSong, SongRules]

lemma ofMagic?_eq_some_iff {bytes : List UInt8} (format : Format) :
    Format.ofMagic? bytes = some format ↔ bytes = format.magic := by
  constructor
  · intro h
    unfold Format.ofMagic? at h
    split_ifs at h with psid rsid
    · cases h
      exact psid
    · cases h
      exact rsid
  · rintro rfl
    cases format <;> decide

/-- The rules for both formats. -/
lemma decode_decides : Decides (decode data) (CommonRules data) (Spells data) := by
  unfold decode
  by_cases short : data.length < sizeV1
  · rw [dif_pos short]
    exact fun all => absurd all.1 (Nat.not_le_of_lt short)
  · rw [dif_neg short]
    have long : 0x76 ≤ data.length := Nat.le_of_not_lt short
    cases hmagic : Format.ofMagic? (data.take 4) with
    | none =>
      rintro ⟨-, psid | rsid, -⟩
      · exact absurd (hmagic.symm.trans ((ofMagic?_eq_some_iff .psid).mpr psid)) (by simp)
      · exact absurd (hmagic.symm.trans ((ofMagic?_eq_some_iff .rsid).mpr rsid)) (by simp)
    | some format =>
      have magic : data.take 4 = format.magic := (ofMagic?_eq_some_iff format).mp hmagic
      have known : IsPsid data ∨ IsRsid data := by
        rw [IsPsid, IsRsid, magic]
        cases format <;> decide
      have fields := Decides.bind (decodeLong_decides (Nat.le_of_not_lt short) magic)
        fun header _ spells =>
          Decides.before_pure (checkSongs_decides spells) header fun _ => spells
      refine fields.congr ?_
      rw [CommonRules, and_iff_right long, and_iff_right known]

lemma inSystemArea_iff {address : UInt16} {n : ℕ} (h : address.toNat = n) :
    inSystemArea address = true ↔ ¬ FreeAddress n := by
  have bound (limit : UInt16) (k : ℕ) (hk : limit.toNat = k) :
      (address ≤ limit ↔ n ≤ k) ∧ (limit ≤ address ↔ k ≤ n) := by
    rw [UInt16.le_iff_toNat_le, UInt16.le_iff_toNat_le, h, hk]
    exact ⟨Iff.rfl, Iff.rfl⟩
  simp only [inSystemArea, Bool.or_eq_true, Bool.and_eq_true, decide_eq_true_iff,
    (bound 0x07E7 0x07E7 rfl).1, (bound 0xA000 0xA000 rfl).2, (bound 0xBFFF 0xBFFF rfl).1,
    (bound 0xD000 0xD000 rfl).2, FreeAddress]
  omega

/-- The flag of a BASIC program, which the first version does not have. -/
lemma hasFlag_platformSpecific_iff {header : Header} (h : Spells data header)
    (later : TuneFormat.version data ≠ 1) :
    header.hasFlag Flag.platformSpecific = true ↔ IsBasic data := by
  rw [hasFlag, beq_iff_eq, Flag.platformSpecific, IsBasic, ← h.flags later]
  exact and_two_eq_two_iff header.flags

/-- The rule for the init routine, wherever it is asked. -/
lemma checkInit_decides {header : Header} (h : Spells data header)
    (later : TuneFormat.version data ≠ 1) {init : UInt16} {n : ℕ} (hinit : init.toNat = n) :
    Decides (header.checkInit init) (¬ IsBasic data → FreeAddress n) fun _ => True := by
  have basic := hasFlag_platformSpecific_iff h later
  unfold checkInit
  by_cases hbasic : header.hasFlag Flag.platformSpecific = true
  · rw [if_pos hbasic]
    exact ⟨fun not => absurd (basic.mp hbasic) not, trivial⟩
  · rw [if_neg hbasic]
    by_cases harea : inSystemArea init = true
    · rw [if_pos harea]
      exact fun free => (inSystemArea_iff hinit).mp harea (free (mt basic.mpr hbasic))
    · rw [if_neg harea]
      exact ⟨fun _ => not_not.mp (mt (inSystemArea_iff hinit).mpr harea), trivial⟩

/-- The rules for an RSID, that for an init routine without an address of its own left out. -/
lemma check_decides {header : Header} (h : Spells data header)
    (later : IsRsid data → TuneFormat.version data ≠ 1) :
    Decides header.check (RsidRules data) fun _ => True := by
  unfold check
  cases hformat : header.format with
  | psid =>
    refine ⟨fun rsid => ?_, trivial⟩
    rw [h.rsid_iff, hformat] at rsid
    cases rsid
  | rsid =>
    have rsid : IsRsid data := h.rsid_iff.mpr hformat
    have speed : header.speed = 0 ↔ bigLong data 0x12 = 0 := by
      rw [← h.speed, ← UInt32.toNat_inj]
      rfl
    have init : Decides
        (if header.initAddress ≠ 0 then header.checkInit header.initAddress else .ok ())
        (initWord data ≠ 0 → ¬ IsBasic data → FreeAddress (initWord data)) fun _ => True := by
      by_cases hinit : header.initAddress ≠ 0
      · rw [if_pos hinit]
        have own : initWord data ≠ 0 := mt (word_eq_zero_iff h.initAddress).mpr hinit
        exact (checkInit_decides h (later rsid) h.initAddress).congr (by simp only [own, ne_eq,
          not_false_eq_true, true_implies])
      · rw [if_neg hinit]
        have none : initWord data = 0 := (word_eq_zero_iff h.initAddress).mp (not_not.mp hinit)
        exact ⟨fun own => absurd none own, trivial⟩
    have all := Decides.ite_error (TuneFault.header .rsidPlayAddress)
      fun _ : ¬ header.playAddress ≠ 0 =>
        Decides.ite_error (TuneFault.header .rsidSpeed)
          fun _ : ¬ header.speed ≠ 0 =>
            Decides.ite_error (TuneFault.header .rsidLoadAddress)
              fun _ : ¬ header.loadAddress ≠ 0 => init
    refine all.congr ?_
    rw [not_not, not_not, not_not, word_eq_zero_iff h.playAddress, speed,
      word_eq_zero_iff h.loadAddress, RsidRules]
    simp only [rsid, true_implies]

/-- Reading a header. -/
lemma parse_decides :
    Decides (Header.parse data) (CommonRules data ∧ RsidRules data) (Spells data) := by
  refine Decides.bind decode_decides fun header rules spells => ?_
  have later (rsid : IsRsid data) : TuneFormat.version data ≠ 1 :=
    fun first => rules.2.2.1.2.1 ⟨rsid, first⟩
  exact Decides.before_pure (check_decides spells later) header fun _ => spells

end Header

/-! ## The file -/

namespace TuneFile

open TuneFormat

variable {data : List UInt8}

/-- What is made of a file: the address that the bytes name, and the rest of the bytes. -/
structure Reads (data : List UInt8) (file : TuneFile) : Prop where
  header : Spells data file.header
  address : file.loadAddress.toNat = TuneFormat.loadAddress data
  program : ∃ front, data = front ++ file.program ∧ front.length = programStart data

/-- Separating load address and program. -/
lemma ofBody_decides {header : Header} (h : Spells data header)
    (long : headerSize data ≤ data.length) (rsid : IsRsid data → loadWord data = 0) :
    Decides (ofBody header data.length (data.drop header.size))
      (loadWord data = 0 → headerSize data + 2 ≤ data.length) (Reads data) := by
  have open_iff : header.embedsLoadAddress = true ↔ loadWord data = 0 := by
    rw [Header.embedsLoadAddress, Bool.or_eq_true, decide_eq_true_iff, decide_eq_true_iff,
      word_eq_zero_iff h.loadAddress, ← h.rsid_iff]
    exact or_iff_left_of_imp rsid
  have parts : data = data.take (headerSize data) ++ data.drop (headerSize data) :=
    (List.take_append_drop _ data).symm
  have front : (data.take (headerSize data)).length = headerSize data := List.length_take_of_le long
  unfold ofBody
  rw [h.size_eq]
  by_cases hopen : header.embedsLoadAddress = true
  · rw [if_pos hopen]
    have zero : loadWord data = 0 := open_iff.mp hopen
    have body : (data.drop (headerSize data)).length = data.length - headerSize data :=
      List.length_drop
    match hbody : data.drop (headerSize data) with
    | [] =>
      rw [hbody] at body
      exact fun enough => absurd (enough zero) (by simp at body; omega)
    | [only] =>
      rw [hbody] at body
      exact fun enough => absurd (enough zero) (by simp at body; omega)
    | low :: high :: program =>
      rw [hbody] at body parts
      have enough : headerSize data + 2 ≤ data.length := by
        simp only [List.length_cons] at body
        omega
      have first : byteAt data (headerSize data) = low.toNat := by
        rw [byteAt, List.getD_eq_getElem?_getD, ← List.head?_drop, hbody]
        rfl
      have second : byteAt data (headerSize data + 1) = high.toNat := by
        have tail : data.drop (headerSize data + 1) = high :: program := by
          rw [← List.tail_drop, hbody, List.tail_cons]
        rw [byteAt, List.getD_eq_getElem?_getD, ← List.head?_drop, tail]
        rfl
      refine ⟨fun _ => enough, h, ?_, ?_⟩
      · rw [toNat_wordOf, TuneFormat.loadAddress, if_pos zero, littleWord, first, second]
        omega
      · refine ⟨data.take (headerSize data) ++ [low, high], ?_, ?_⟩
        · simpa using parts
        · rw [List.length_append, front, programStart, if_pos zero]
          rfl
  · rw [if_neg hopen]
    have own : loadWord data ≠ 0 := mt open_iff.mpr hopen
    refine ⟨fun zero => absurd zero own, h, ?_, ?_⟩
    · rw [TuneFormat.loadAddress, if_neg own]
      exact h.loadAddress
    · exact ⟨data.take (headerSize data), parts, by rw [front, programStart, if_neg own]⟩

/-- The rule for an init routine that starts at the load address. -/
lemma check_decides {file : TuneFile} (h : Reads data file)
    (later : IsRsid data → TuneFormat.version data ≠ 1) :
    Decides file.check (OpenInitRule data) fun _ => True := by
  unfold check
  by_cases hrule : file.header.format = .rsid ∧ file.header.initAddress = 0
  · rw [if_pos hrule]
    have rsid : IsRsid data := h.header.rsid_iff.mpr hrule.1
    have zero : initWord data = 0 := (word_eq_zero_iff h.header.initAddress).mp hrule.2
    have init : file.initAddress.toNat = TuneFormat.loadAddress data := by
      rw [initAddress, if_pos hrule.2]
      exact h.address
    refine (Header.checkInit_decides h.header (later rsid) init).congr ?_
    simp only [OpenInitRule, rsid, zero, true_implies]
  · rw [if_neg hrule]
    refine ⟨fun rsid zero => ?_, trivial⟩
    exact absurd ⟨h.header.rsid_iff.mp rsid, (word_eq_zero_iff h.header.initAddress).mpr zero⟩ hrule

/-- Reading a file decides the format, and what is read is what the bytes spell. -/
lemma parse_decides : Decides (TuneFile.parse data) (Accepted data) (Reads data) := by
  have all : Decides (TuneFile.parse data) _ (Reads data) :=
    Decides.bind Header.parse_decides fun header rules spells =>
      Decides.bind (ofBody_decides spells rules.1.2.2.1.2.2.2 fun rsid => (rules.2 rsid).2.2.1)
        fun file _ reads =>
          Decides.before_pure
            (check_decides reads fun rsid first => rules.1.2.2.1.2.1 ⟨rsid, first⟩) file
            fun _ => reads
  exact all.congr (accepted_iff data).symm

end TuneFile

end SidScore
