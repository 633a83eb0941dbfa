import Mathlib.Data.List.TakeWhile
import SidScore.Proofs.Tune.Reader

/-!
# Writing a header back

A header that was read can be written, and what is written is read as the same header.  Reader and
writer walk over the header each in its own way, so both are compared with a third thing: the bytes
of a header around three given text fields, `Header.layout`.

* The file that a header was read from starts with the layout of that header around the file's own
  text fields.
* A header is written as its layout around fields that are filled up with zeros.

So the two can differ in the texts alone: reading stops at the first zero of a field, and what
stands behind it in the file is lost.  In between is `parse_eq_ok_iff`, which says what files are
read as a given header; the file occurs in it through its first bytes only, so that it does not
matter what follows them.
-/

namespace SidScore

namespace Header

variable {data field : List UInt8} {header : Header}

/-! ## Texts -/

lemma charByte_ofNat (byte : UInt8) : charByte (Char.ofNat byte.toNat) = byte := by
  have bound : byte.toNat < 256 := byte.toNat_lt
  have valid : byte.toNat.isValidChar := .inl (by omega)
  have code : (Char.ofNat byte.toNat).toNat = byte.toNat := by
    rw [Char.ofNat, dif_pos valid]
    rfl
  rw [charByte, code, if_pos bound, UInt8.ofNat_toNat]

/-- The bytes of a field before its first zero. -/
def visible (field : List UInt8) : List UInt8 :=
  field.takeWhile (· != 0)

lemma length_visible_le (field : List UInt8) : (visible field).length ≤ field.length :=
  (List.takeWhile_prefix _).length_le

lemma length_textBytes (text : String) : (textBytes text).length = textSize := by
  simp only [textBytes, List.length_append, List.length_replicate, List.length_map,
    List.length_take]
  omega

/-- A text that was read is written as its visible bytes, with zeros behind. -/
lemma textBytes_textOf (h : field.length = textSize) : textBytes (textOf field) =
    visible field ++ List.replicate (field.length - (visible field).length) 0 := by
  have short : (visible field).length ≤ textSize := h ▸ length_visible_le field
  have bytes : ((textOf field).toList.take textSize).map charByte = visible field := by
    rw [textOf, String.toList_ofList, List.take_of_length_le (by simpa [visible] using short),
      List.map_map]
    refine (List.map_congr_left fun byte _ => ?_).trans (List.map_id _)
    exact charByte_ofNat byte
  simp only [textBytes, bytes, h]

/-- A text that was read comes back from the field that is written for it. -/
lemma textOf_textBytes (h : field.length = textSize) :
    textOf (textBytes (textOf field)) = textOf field := by
  have nonzero : ∀ byte ∈ visible field, (byte != 0) = true := fun byte hbyte =>
    List.mem_takeWhile_imp (p := (· != 0)) hbyte
  have same : (textBytes (textOf field)).takeWhile (· != 0) = visible field := by
    rw [textBytes_textOf h, List.takeWhile_append_of_pos nonzero, List.takeWhile_replicate]
    simp
  rw [textOf, same, textOf, visible]

/-- Every byte behind a zero is zero. -/
def ZeroEnded (field : List UInt8) : Prop :=
  ∀ i j, i < j → j < field.length → field[i]? = some 0 → field[j]? = some 0

lemma zeroEnded_cons_zero {rest : List UInt8} :
    ZeroEnded (0 :: rest) ↔ rest = List.replicate rest.length 0 := by
  rw [List.eq_replicate_iff]
  constructor
  · intro ended
    refine ⟨rfl, fun byte hbyte => ?_⟩
    obtain ⟨j, hj, rfl⟩ := List.getElem_of_mem hbyte
    have zero := ended 0 (j + 1) (Nat.succ_pos j) (Nat.succ_lt_succ hj) rfl
    simpa [List.getElem?_eq_getElem hj] using zero
  · rintro ⟨-, all⟩ i j hij hj -
    cases j with
    | zero => omega
    | succ j =>
      have inside : j < rest.length := Nat.lt_of_succ_lt_succ hj
      simp [List.getElem?_eq_getElem inside, all _ (List.getElem_mem inside)]

lemma zeroEnded_cons_of_ne {byte : UInt8} {rest : List UInt8} (h : byte ≠ 0) :
    ZeroEnded (byte :: rest) ↔ ZeroEnded rest := by
  constructor
  · intro ended i j hij hj zero
    simpa using ended (i + 1) (j + 1) (by omega) (Nat.succ_lt_succ hj) (by simpa using zero)
  · intro ended i j hij hj zero
    cases i with
    | zero => exact absurd (Option.some.inj zero) h
    | succ i =>
      cases j with
      | zero => omega
      | succ j =>
        simpa using ended i j (by omega) (Nat.lt_of_succ_lt_succ hj) (by simpa using zero)

lemma visible_append_zeros_eq_iff (field : List UInt8) :
    visible field ++ List.replicate (field.length - (visible field).length) 0 = field ↔
      ZeroEnded field := by
  induction field with
  | nil => simp [visible, ZeroEnded]
  | cons byte rest ih =>
    by_cases zero : byte = 0
    · subst zero
      have none : visible (0 :: rest) = [] := rfl
      rw [zeroEnded_cons_zero, none, List.nil_append, List.length_nil, Nat.sub_zero,
        List.length_cons, List.replicate_succ, List.cons_inj_right]
      exact eq_comm
    · have first : visible (byte :: rest) = byte :: visible rest := by
        simp [visible, zero]
      rw [zeroEnded_cons_of_ne zero, ← ih, first, List.cons_append, List.cons_inj_right,
        List.length_cons, List.length_cons, Nat.add_sub_add_right]

/-- A field is written as it was read exactly if nothing stands behind its first zero. -/
lemma textBytes_textOf_eq_iff (h : field.length = textSize) :
    textBytes (textOf field) = field ↔ ZeroEnded field := by
  rw [textBytes_textOf h, visible_append_zeros_eq_iff]

/-! ## The layout -/

/-- The fields that every version has, around three text fields. -/
def frame (h : Header) (name author released : List UInt8) : List UInt8 :=
  h.format.magic ++ wordBytes h.version ++ wordBytes h.dataOffset ++ wordBytes h.loadAddress
    ++ wordBytes h.initAddress ++ wordBytes h.playAddress ++ wordBytes h.songs
    ++ wordBytes h.startSong ++ longBytes h.speed ++ name ++ author ++ released

/-- The bytes of a header around three text fields. -/
def layout (h : Header) (name author released : List UInt8) : List UInt8 :=
  h.frame name author released ++ if h.version = 1 then [] else h.addedBytes

lemma toBytes_eq_layout (h : header.version ≠ 0) : header.toBytes =
    header.layout (textBytes header.name) (textBytes header.author)
      (textBytes header.released) := by
  have later : 2 ≤ header.version ↔ header.version ≠ 1 := by
    have two : (2 : UInt16).toNat = 2 := rfl
    have one : (1 : UInt16).toNat = 1 := rfl
    have zero : (0 : UInt16).toNat = 0 := rfl
    simp only [UInt16.le_iff_toNat_le, ne_eq, ← UInt16.toNat_inj, two, one, zero] at h ⊢
    omega
  unfold toBytes layout
  by_cases first : header.version = 1
  · rw [if_neg (fun two => later.mp two first), if_pos first, List.append_nil]
    rfl
  · rw [if_pos (later.mpr first), if_neg first]
    rfl

lemma length_magic (format : Format) : format.magic.length = 4 := by
  cases format <;> rfl

variable {name author released : List UInt8}

lemma length_frame (hname : name.length = textSize) (hauthor : author.length = textSize)
    (hreleased : released.length = textSize) :
    (header.frame name author released).length = sizeV1 := by
  simp only [frame, wordBytes, longBytes, List.length_append, List.length_cons, List.length_nil,
    length_magic, hname, hauthor, hreleased]
  rfl

lemma length_layout (hname : name.length = textSize) (hauthor : author.length = textSize)
    (hreleased : released.length = textSize) :
    (header.layout name author released).length = header.size := by
  rw [layout, List.length_append, length_frame hname hauthor hreleased, size, sizeOfVersion]
  by_cases first : header.version = 1
  · rw [if_pos first, if_pos first]
    rfl
  · rw [if_neg first, if_neg first]
    rfl

/-! ### Every byte of a file is in some field -/

/-- The text field at an offset. -/
def fieldAt (data : List UInt8) (offset : ℕ) : List UInt8 :=
  (data.drop offset).take textSize

lemma length_fieldAt {offset : ℕ} (h : offset + 32 ≤ data.length) :
    (fieldAt data offset).length = textSize := by
  rw [fieldAt, List.length_take, List.length_drop, textSize]
  omega

lemma take_two_drop {offset : ℕ} (h : offset + 2 ≤ data.length) :
    (data.drop offset).take 2 = wordBytes (wordAt data offset h) := by
  rw [wordAt, wordBytes, highByte_wordOf, lowByte_wordOf, List.drop_eq_getElem_cons (by omega),
    List.drop_eq_getElem_cons (by omega)]
  rfl

lemma take_four_drop {offset : ℕ} (h : offset + 4 ≤ data.length) :
    (data.drop offset).take 4 = longBytes (longAt data offset h) := by
  rw [longAt, longBytes, highWord_longOf, lowWord_longOf, ← take_two_drop, ← take_two_drop,
    ← List.drop_drop, ← List.take_add]

/-- A file starts with the frame of the fields that are read from it. -/
lemma take_eq_frame {format : Format} (long : sizeV1 ≤ data.length)
    (magic : data.take 4 = format.magic) : data.take sizeV1 =
      (decodeFields format data long).frame (fieldAt data 0x16) (fieldAt data 0x36)
        (fieldAt data 0x56) := by
  have enough : 0x76 ≤ data.length := long
  have split : sizeV1 = 4 + 2 + 2 + 2 + 2 + 2 + 2 + 2 + 4 + textSize + textSize + textSize := rfl
  rw [split]
  simp only [List.take_add, magic]
  rw [take_two_drop (by omega), take_two_drop (by omega), take_two_drop (by omega),
    take_two_drop (by omega), take_two_drop (by omega), take_two_drop (by omega),
    take_two_drop (by omega), take_four_drop (by omega)]
  rfl

/-- So it does in later versions. -/
lemma take_eq_frame_append {format : Format} (long : sizeV1 ≤ data.length)
    (longer : sizeV2 ≤ data.length) (magic : data.take 4 = format.magic) : data.take sizeV2 =
      (decodeFields format data long).frame (fieldAt data 0x16) (fieldAt data 0x36)
        (fieldAt data 0x56) ++
      ((decodeFields format data long).withAddedFields data longer).addedBytes := by
  have enough : 0x7C ≤ data.length := longer
  have split : sizeV2 = sizeV1 + (2 + 4) := rfl
  have bytes : (data.drop (sizeV1 + 2)).take 4 =
      [data[0x78], data[0x79], data[0x7A], data[0x7B]] := by
    rw [sizeV1]
    iterate 4 rw [List.drop_eq_getElem_cons (by omega)]
    rfl
  rw [split, List.take_add, take_eq_frame long magic, List.take_add, List.drop_drop, bytes,
    take_two_drop (by rw [sizeV1]; omega)]
  rfl

/-! ### A field is in one place -/

lemma wordBytes_injective {v w : UInt16} (h : wordBytes v = wordBytes w) : v = w := by
  obtain ⟨high, low⟩ : highByte v = highByte w ∧ lowByte v = lowByte w := by
    simpa [wordBytes] using h
  rw [← wordOf_lowByte_highByte v, ← wordOf_lowByte_highByte w, high, low]

lemma longBytes_injective {v w : UInt32} (h : longBytes v = longBytes w) : v = w := by
  obtain ⟨high, low⟩ := List.append_inj h rfl
  have high : (v >>> 16).toUInt16.toNat = (w >>> 16).toUInt16.toNat :=
    congrArg UInt16.toNat (wordBytes_injective high)
  have low : v.toUInt16.toNat = w.toUInt16.toNat :=
    congrArg UInt16.toNat (wordBytes_injective low)
  have hv := v.toNat_lt
  have hw := w.toNat_lt
  have shifted (n : ℕ) : n >>> 16 = n / 65536 := Nat.shiftRight_eq_div_pow n 16
  have places : UInt32.toNat 16 % 32 = 16 := rfl
  rw [UInt32.toNat_toUInt16, UInt32.toNat_shiftRight, UInt32.toNat_toUInt16,
    UInt32.toNat_shiftRight, places, shifted, shifted] at high
  rw [UInt32.toNat_toUInt16, UInt32.toNat_toUInt16] at low
  rw [← UInt32.toNat_inj]
  omega

/-- The field is one of full size with the text. -/
def Holds (field : List UInt8) (text : String) : Prop :=
  field.length = textSize ∧ textOf field = text

/-- The header without the fields that later versions add. -/
def common (h : Header) : Header :=
  { h with flags := 0, startPage := 0, pageLength := 0, secondSid := 0, thirdSid := 0 }

lemma take_four_frame : (header.frame name author released).take 4 = header.format.magic := by
  unfold frame
  simp only [List.append_assoc]
  exact List.take_left' (length_magic _)

/-- A file that starts with a frame is read as the fields of the frame. -/
lemma decodeFields_eq_common (long : sizeV1 ≤ data.length) (hname : Holds name header.name)
    (hauthor : Holds author header.author) (hreleased : Holds released header.released)
    (starts : data.take sizeV1 = header.frame name author released) :
    decodeFields header.format data long = header.common := by
  have enough : 0x76 ≤ data.length := long
  have magic : data.take 4 = header.format.magic := by
    have head : (header.frame name author released).take 4 = header.format.magic := take_four_frame
    rw [← head, ← starts, List.take_take]
    rfl
  have same := (take_eq_frame long magic).symm.trans starts
  -- All parts have their lengths in common, so they agree one by one, from the last to the first.
  unfold frame at same
  obtain ⟨same, text₃⟩ := List.append_inj' same
    ((length_fieldAt (by omega)).trans hreleased.1.symm)
  obtain ⟨same, text₂⟩ := List.append_inj' same
    ((length_fieldAt (by omega)).trans hauthor.1.symm)
  obtain ⟨same, text₁⟩ := List.append_inj' same
    ((length_fieldAt (by omega)).trans hname.1.symm)
  obtain ⟨same, speed⟩ := List.append_inj' same rfl
  obtain ⟨same, startSong⟩ := List.append_inj' same rfl
  obtain ⟨same, songs⟩ := List.append_inj' same rfl
  obtain ⟨same, play⟩ := List.append_inj' same rfl
  obtain ⟨same, init⟩ := List.append_inj' same rfl
  obtain ⟨same, load⟩ := List.append_inj' same rfl
  obtain ⟨same, offset⟩ := List.append_inj' same rfl
  obtain ⟨-, version⟩ := List.append_inj' same rfl
  have title : textAt data 0x16 = header.name := by rw [← hname.2, ← text₁]; rfl
  have composer : textAt data 0x36 = header.author := by rw [← hauthor.2, ← text₂]; rfl
  have release : textAt data 0x56 = header.released := by rw [← hreleased.2, ← text₃]; rfl
  rw [common, ← wordBytes_injective version, ← wordBytes_injective offset,
    ← wordBytes_injective load, ← wordBytes_injective init, ← wordBytes_injective play,
    ← wordBytes_injective songs, ← wordBytes_injective startSong, ← longBytes_injective speed,
    ← title, ← composer, ← release]
  rfl

/-- A file that goes on with the added fields is read as the whole header. -/
lemma withAddedFields_eq {fields : Header} (longer : sizeV2 ≤ data.length)
    (same : fields = header.common)
    (bytes : (fields.withAddedFields data longer).addedBytes = header.addedBytes) :
    fields.withAddedFields data longer = header := by
  subst same
  obtain ⟨flags, rest⟩ := List.append_inj bytes rfl
  simp only [List.cons.injEq, and_true] at rest
  obtain ⟨page, length, second, third⟩ := rest
  cases header
  simp only [withAddedFields, common] at *
  rw [page, length, second, third, wordBytes_injective flags]

/-! ## Which files are read as a header -/

/-- What the reader asks of the fields. -/
structure Valid (h : Header) : Prop where
  version_range : ¬ (h.version = 0 ∨ 4 < h.version)
  rsid_version : ¬ (h.format = .rsid ∧ h.version = 1)
  data_offset : h.dataOffset.toNat = h.size
  /-- The first version has no more than the common fields. -/
  first : h.version = 1 → h = h.common
  songs : h.checkSongs = .ok ()
  rules : h.check = .ok ()

/-- The file starts with the header, around text fields of its own. -/
structure StartsWith (data : List UInt8) (h : Header) (name author released : List UInt8) :
    Prop where
  title : Holds name h.name
  composer : Holds author h.author
  release : Holds released h.released
  bytes : data.take h.size = h.layout name author released

/-- What is read once version and length are known to match. -/
lemma decodeLong_eq_ok_iff {format : Format} (long : sizeV1 ≤ data.length) :
    decodeLong format data long = .ok header ↔
      (¬ (header.version = 0 ∨ 4 < header.version) ∧ ¬ (format = .rsid ∧ header.version = 1) ∧
        header.dataOffset.toNat = header.size) ∧
      (header.version = 1 ∧ decodeFields format data long = header ∨
        header.version ≠ 1 ∧ ∃ longer : sizeV2 ≤ data.length,
          (decodeFields format data long).withAddedFields data longer = header) := by
  unfold decodeLong
  dsimp only
  constructor
  · intro read
    split at read
    · cases read
    next range =>
    split at read
    · cases read
    next rsid =>
    split at read
    · cases read
    next offset =>
    split at read
    next first =>
      cases read
      exact ⟨⟨range, rsid, not_not.mp offset⟩, .inl ⟨first, rfl⟩⟩
    next later =>
    split at read
    next longer =>
      cases read
      exact ⟨⟨range, rsid, not_not.mp offset⟩, .inr ⟨later, longer, rfl⟩⟩
    · cases read
  · rintro ⟨⟨range, rsid, offset⟩, ⟨first, rfl⟩ | ⟨later, longer, rfl⟩⟩
    · exact (if_neg range).trans ((if_neg rsid).trans
        ((if_neg (not_not.mpr offset)).trans (if_pos first)))
    · exact (if_neg range).trans ((if_neg rsid).trans
        ((if_neg (not_not.mpr offset)).trans ((if_neg later).trans (dif_pos longer))))

lemma bind_eq_ok_iff {ε α β : Type} {outcome : Except ε α} {next : α → Except ε β} {result : β} :
    outcome >>= next = .ok result ↔ ∃ value, outcome = .ok value ∧ next value = .ok result := by
  cases outcome with
  | error fault => exact ⟨nofun, fun ⟨_, fails, _⟩ => nomatch fails⟩
  | ok value =>
    constructor
    · intro passes
      exact ⟨value, rfl, passes⟩
    · rintro ⟨_, ⟨⟩, passes⟩
      exact passes

lemma decode_eq_ok_iff : decode data = .ok header ↔
    ∃ long : sizeV1 ≤ data.length, data.take 4 = header.format.magic ∧
      decodeLong header.format data long = .ok header ∧ header.checkSongs = .ok () := by
  unfold decode
  constructor
  · intro read
    split at read
    · cases read
    next short =>
    split at read
    · cases read
    next format magic =>
    obtain ⟨found, hfound, read⟩ := bind_eq_ok_iff.mp read
    obtain ⟨_, songs, ⟨⟩⟩ := bind_eq_ok_iff.mp read
    have same : header.format = format := by
      rcases ((decodeLong_eq_ok_iff _).mp hfound).2 with ⟨-, rfl⟩ | ⟨-, longer, rfl⟩ <;> rfl
    subst same
    exact ⟨_, (ofMagic?_eq_some_iff _).mp magic, hfound, songs⟩
  · rintro ⟨long, magic, read, songs⟩
    have known := (ofMagic?_eq_some_iff header.format).mpr magic
    rw [dif_neg (Nat.not_lt_of_le long)]
    simp only [known]
    exact bind_eq_ok_iff.mpr ⟨header, read, bind_eq_ok_iff.mpr ⟨(), songs, rfl⟩⟩

lemma size_eq_sizeV1 (first : header.version = 1) : header.size = sizeV1 :=
  if_pos first

lemma size_eq_sizeV2 (later : header.version ≠ 1) : header.size = sizeV2 :=
  if_neg later

lemma layout_eq_frame (first : header.version = 1) :
    header.layout name author released = header.frame name author released := by
  rw [layout, if_pos first, List.append_nil]

lemma layout_eq_frame_append (later : header.version ≠ 1) :
    header.layout name author released =
      header.frame name author released ++ header.addedBytes := by
  rw [layout, if_neg later]

/-- The file of a header that was read starts with it. -/
lemma startsWith_of_decodeLong {format : Format} (long : sizeV1 ≤ data.length)
    (magic : data.take 4 = format.magic) (read : decodeLong format data long = .ok header) :
    StartsWith data header (fieldAt data 0x16) (fieldAt data 0x36) (fieldAt data 0x56) := by
  have enough : 0x76 ≤ data.length := long
  have title : (fieldAt data 0x16).length = textSize := length_fieldAt (by omega)
  have composer : (fieldAt data 0x36).length = textSize := length_fieldAt (by omega)
  have release : (fieldAt data 0x56).length = textSize := length_fieldAt (by omega)
  rcases ((decodeLong_eq_ok_iff long).mp read).2 with ⟨first, rfl⟩ | ⟨later, longer, rfl⟩
  · refine ⟨⟨title, rfl⟩, ⟨composer, rfl⟩, ⟨release, rfl⟩, ?_⟩
    rw [size_eq_sizeV1 first, layout_eq_frame first, take_eq_frame long magic]
  · refine ⟨⟨title, rfl⟩, ⟨composer, rfl⟩, ⟨release, rfl⟩, ?_⟩
    rw [size_eq_sizeV2 later, layout_eq_frame_append later]
    exact take_eq_frame_append long longer magic

/-- A file that starts with a header is read as it. -/
lemma StartsWith.decodeLong (starts : StartsWith data header name author released)
    (valid : header.Valid) : ∃ long : sizeV1 ≤ data.length,
      data.take 4 = header.format.magic ∧ decodeLong header.format data long = .ok header := by
  have whole : header.size ≤ data.length := by
    have length := congrArg List.length starts.bytes
    rw [length_layout starts.title.1 starts.composer.1 starts.release.1, List.length_take] at length
    omega
  have frame : data.take sizeV1 = header.frame name author released := by
    by_cases first : header.version = 1
    · rw [← layout_eq_frame first, ← starts.bytes, size_eq_sizeV1 first]
    · have bytes := starts.bytes
      rw [size_eq_sizeV2 first, layout_eq_frame_append first] at bytes
      have part := congrArg (List.take sizeV1) bytes
      rwa [List.take_take, List.take_left'
        (length_frame starts.title.1 starts.composer.1 starts.release.1)] at part
  have magic : data.take 4 = header.format.magic := by
    have head : (header.frame name author released).take 4 = header.format.magic := take_four_frame
    rw [← head, ← frame, List.take_take]
    rfl
  have range : ¬ (header.version = 0 ∨ 4 < header.version) ∧
      ¬ (header.format = .rsid ∧ header.version = 1) ∧ header.dataOffset.toNat = header.size :=
    ⟨valid.version_range, valid.rsid_version, valid.data_offset⟩
  by_cases first : header.version = 1
  · rw [size_eq_sizeV1 first] at whole
    have fields := decodeFields_eq_common whole starts.title starts.composer starts.release frame
    exact ⟨whole, magic, (decodeLong_eq_ok_iff whole).mpr
      ⟨range, .inl ⟨first, fields.trans (valid.first first).symm⟩⟩⟩
  · rw [size_eq_sizeV2 first] at whole
    have long : sizeV1 ≤ data.length := Nat.le_trans (by decide) whole
    have fields := decodeFields_eq_common long starts.title starts.composer starts.release frame
    -- The frames agree, so what follows them up to the end of the header does.
    have bytes := (take_eq_frame_append long whole magic).symm.trans
      ((size_eq_sizeV2 first ▸ starts.bytes).trans (layout_eq_frame_append first))
    obtain ⟨-, added⟩ := List.append_inj' bytes rfl
    exact ⟨long, magic, (decodeLong_eq_ok_iff long).mpr
      ⟨range, .inr ⟨first, whole, withAddedFields_eq whole fields added⟩⟩⟩

lemma valid_and_startsWith_of_parse (parsed : parse data = .ok header) : header.Valid ∧
    StartsWith data header (fieldAt data 0x16) (fieldAt data 0x36) (fieldAt data 0x56) := by
  obtain ⟨_, hdecode, parsed⟩ := bind_eq_ok_iff.mp parsed
  obtain ⟨_, rules, ⟨⟩⟩ := bind_eq_ok_iff.mp parsed
  obtain ⟨long, magic, hlong, songs⟩ := decode_eq_ok_iff.mp hdecode
  refine ⟨?_, startsWith_of_decodeLong long magic hlong⟩
  obtain ⟨⟨range, rsid, offset⟩, versions⟩ := (decodeLong_eq_ok_iff long).mp hlong
  refine ⟨range, rsid, offset, fun first => ?_, songs, rules⟩
  rcases versions with ⟨-, same⟩ | ⟨later, -⟩
  · rw [← same]
    rfl
  · exact absurd first later

/-- **Which files are read as a header.**  Those that start with it, if it is one that the reader
lets pass. -/
lemma parse_eq_ok_iff : parse data = .ok header ↔
    header.Valid ∧ ∃ name author released, StartsWith data header name author released := by
  constructor
  · intro parsed
    obtain ⟨valid, starts⟩ := valid_and_startsWith_of_parse parsed
    exact ⟨valid, _, _, _, starts⟩
  · rintro ⟨valid, name, author, released, starts⟩
    obtain ⟨long, magic, read⟩ := starts.decodeLong valid
    have decoded := decode_eq_ok_iff.mpr ⟨long, magic, read, valid.songs⟩
    exact bind_eq_ok_iff.mpr ⟨header, decoded, bind_eq_ok_iff.mpr ⟨(), valid.rules, rfl⟩⟩

/-! ## Writing -/

lemma Valid.toBytes_eq (valid : header.Valid) : header.toBytes =
    header.layout (textBytes header.name) (textBytes header.author)
      (textBytes header.released) :=
  toBytes_eq_layout fun zero => valid.version_range (.inl zero)

lemma Valid.length_toBytes (valid : header.Valid) : header.toBytes.length = header.size := by
  rw [valid.toBytes_eq, length_layout (length_textBytes _) (length_textBytes _)
    (length_textBytes _)]

lemma Holds.textBytes {text : String} (h : Holds field text) : Holds (textBytes text) text := by
  obtain ⟨length, rfl⟩ := h
  exact ⟨length_textBytes _, textOf_textBytes length⟩

/-- What is written starts with the header, around zero-filled texts. -/
lemma StartsWith.toBytes (starts : StartsWith data header name author released)
    (valid : header.Valid) (rest : List UInt8) :
    StartsWith (header.toBytes ++ rest) header (textBytes header.name)
      (textBytes header.author) (textBytes header.released) where
  title := starts.title.textBytes
  composer := starts.composer.textBytes
  release := starts.release.textBytes
  bytes := by rw [List.take_left' valid.length_toBytes, valid.toBytes_eq]

lemma layout_eq_layout_iff {name' author' released' : List UInt8}
    (hname : name.length = name'.length) (hauthor : author.length = author'.length)
    (hreleased : released.length = released'.length) :
    header.layout name author released = header.layout name' author' released' ↔
      name = name' ∧ author = author' ∧ released = released' := by
  constructor
  · intro same
    obtain ⟨same, -⟩ := List.append_inj' same rfl
    obtain ⟨same, third⟩ := List.append_inj' same hreleased
    obtain ⟨same, second⟩ := List.append_inj' same hauthor
    obtain ⟨-, first⟩ := List.append_inj' same hname
    exact ⟨first, second, third⟩
  · rintro ⟨rfl, rfl, rfl⟩
    rfl

/-- **A header that was read is written and read again.**  What is written has the size of the
header and is read as the same header, whatever follows it; all that a header means is computed from
its fields, so that is the same as well.  And it is what stood at the start of the file exactly if
in none of the file's text fields anything stands behind the first zero. -/
theorem parse_toBytes_append (parsed : parse data = .ok header) (rest : List UInt8) :
    header.toBytes.length = header.size ∧
      parse (header.toBytes ++ rest) = .ok header ∧
      (header.toBytes = data.take header.size ↔
        ∀ offset ∈ [0x16, 0x36, 0x56], ZeroEnded (fieldAt data offset)) := by
  obtain ⟨valid, starts⟩ := valid_and_startsWith_of_parse parsed
  refine ⟨valid.length_toBytes, parse_eq_ok_iff.mpr ⟨valid, _, _, _, starts.toBytes valid rest⟩, ?_⟩
  have written {offset : ℕ} {text : String} (h : Holds (fieldAt data offset) text) :
      textBytes text = fieldAt data offset ↔ ZeroEnded (fieldAt data offset) := by
    rw [← h.2, textBytes_textOf_eq_iff h.1]
  have lengths {offset : ℕ} {text : String} (h : Holds (fieldAt data offset) text) :
      (textBytes text).length = (fieldAt data offset).length :=
    (length_textBytes text).trans h.1.symm
  rw [valid.toBytes_eq, starts.bytes, layout_eq_layout_iff (lengths starts.title)
    (lengths starts.composer) (lengths starts.release), written starts.title,
    written starts.composer, written starts.release]
  simp only [List.forall_mem_cons, List.not_mem_nil, false_implies, implies_true, and_true]

/-- A file of the fourth version with all that a header can carry along: text behind a zero, a field
without any zero, bytes beyond ASCII, reserved flags and a third chip at the address of the
second. -/
def crowdedFile : List UInt8 :=
  [0x50, 0x53, 0x49, 0x44, 0x00, 0x04, 0x00, 0x7C, 0x10, 0x00, 0x10, 0x00, 0x10, 0x03, 0x01, 0x00,
    0x00, 0x01, 0x80, 0x00, 0x00, 0x01]
  ++ [0xC4, 0x00, 0x21] ++ List.replicate 29 0x00 ++ List.replicate 32 0xE9
  ++ List.replicate 32 0x00 ++ [0xFC, 0x14, 0x04, 0x20, 0x42, 0x42] ++ [0x60]

/-- It is read, written as something else, and that is read as the same header. -/
theorem crowdedFile_rewritten : ∃ header, parse crowdedFile = .ok header ∧
    header.toBytes.length = header.size ∧ parse (header.toBytes ++ [0xFF]) = .ok header ∧
      header.toBytes ≠ crowdedFile.take header.size := by
  obtain ⟨header, parsed⟩ : ∃ header, parse crowdedFile = .ok header := by
    have passes : (parse crowdedFile).isOk = true := by decide +kernel
    cases hparse : parse crowdedFile with
    | ok header => exact ⟨header, rfl⟩
    | error _ =>
      rw [hparse] at passes
      cases passes
  obtain ⟨length, again, same⟩ := parse_toBytes_append parsed [0xFF]
  refine ⟨header, parsed, length, again, fun equal => ?_⟩
  have ended := same.mp equal 0x16 List.mem_cons_self 1 2 (by decide) (by decide) (by decide)
  exact absurd ended (by decide)

end Header

end SidScore
