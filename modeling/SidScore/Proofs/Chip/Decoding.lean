import SidScore.Player.Basic
import SidScore.Proofs.Memory.Cells

/-!
# Where the chips are decoded

A header places up to three chips, each in a block of 32 addresses.  The first block repeats over
`$D400`–`$D7FF` if no other lies there, so an access can reach a register through an address of
another.  The observer's window is laid so that it misses none of them.

Everything is read off the header alone, whether or not the rest of it would be accepted.
-/

namespace SidScore

/-! ## Bases -/

namespace Chip

/-- A base address that a chip can have: that of the first chip, or one that a byte names. -/
def LegalBase (base : UInt16) : Prop :=
  base.toNat % 0x20 = 0 ∧
    ((0xD400 ≤ base.toNat ∧ base.toNat ≤ 0xD7E0) ∨ (0xDE00 ≤ base.toNat ∧ base.toNat ≤ 0xDFE0))

/-- The address lies in a chip's block. -/
def InBlock (base address : UInt16) : Prop :=
  base.toNat ≤ address.toNat ∧ address.toNat < base.toNat + 0x20

lemma legalBase_of_address? {byte : UInt8} {base : UInt16} (h : address? byte = some base) :
    LegalBase base := by
  have bound := byte.toNat_lt
  unfold address? at h
  simp only [Option.ite_none_right_eq_some, Option.some.injEq] at h
  obtain ⟨⟨even, range⟩, rfl⟩ := h
  have pairs : byte.toNat % 2 = 0 := by simpa using congrArg UInt8.toNat even
  have address : (0xD000 + byte.toUInt16 * 16 : UInt16).toNat = 0xD000 + byte.toNat * 16 := by
    simp only [UInt16.toNat_add, UInt16.toNat_mul, UInt8.toNat_toUInt16, UInt16.reduceToNat]
    omega
  simp only [UInt8.le_iff_toNat_le, UInt8.reduceToNat] at range
  unfold LegalBase
  rw [address]
  omega

end Chip

namespace Header

variable {header : Header}

lemma mem_addTo {bases : List UInt16} {byte : UInt8} {base : UInt16}
    (h : base ∈ (ChipPlacement.of bases byte).addTo bases) :
    base ∈ bases ∨ Chip.LegalBase base := by
  unfold ChipPlacement.of at h
  split at h
  · exact .inl h
  · split at h
    · next named =>
      split at h
      · exact .inl h
      · rcases List.mem_append.mp h with old | new
        · exact .inl old
        · rw [List.mem_singleton.mp new]
          exact .inr (Chip.legalBase_of_address? named)
    · exact .inl h

/-- All chips have legal bases. -/
lemma legalBase_of_mem {base : UInt16} (h : base ∈ header.chipBases) : Chip.LegalBase base := by
  have first : Chip.LegalBase Chip.firstBase := ⟨by decide, .inl ⟨by decide, by decide⟩⟩
  rcases mem_addTo h with second | legal
  · rcases mem_addTo second with only | legal
    · rw [List.mem_singleton.mp only]
      exact first
    · exact legal
  · exact legal

lemma prefix_addTo (bases : List UInt16) (placement : ChipPlacement) :
    bases <+: placement.addTo bases := by
  cases placement with
  | placed base => exact List.prefix_append _ _
  | _ => exact List.prefix_rfl

/-- The first chip is where it always is. -/
lemma chipBases_eq_cons : ∃ extra, header.chipBases = Chip.firstBase :: extra := by
  obtain ⟨second, hsecond⟩ := prefix_addTo [Chip.firstBase] header.secondPlacement
  obtain ⟨third, hthird⟩ := prefix_addTo header.firstBases header.thirdPlacement
  refine ⟨second ++ third, ?_⟩
  rw [chipBases, ← hthird, firstBases, ← hsecond, List.append_assoc]
  rfl

end Header

/-! ## Decoding -/

namespace BankedMemory

variable {memory : BankedMemory} {header : Header} {base address : UInt16}

/-- While the first block repeats, no other chip lies in its range. -/
lemma base_of_firstChipRepeats (bases : memory.sidBases = header.chipBases)
    (repeats : memory.firstChipRepeats = true) (h : base ∈ header.chipBases) :
    base = Chip.firstBase ∨ 0xD800 ≤ base.toNat := by
  obtain ⟨extra, hextra⟩ := header.chipBases_eq_cons
  rw [firstChipRepeats, bases, hextra, List.tail_cons, List.all_eq_true] at repeats
  rw [hextra] at h
  rcases List.mem_cons.mp h with first | other
  · exact .inl first
  · have outside := repeats base other
    simp only [Bool.not_eq_true', Bool.and_eq_false_iff, decide_eq_false_iff_not,
      UInt16.le_iff_toNat_le, UInt16.reduceToNat] at outside
    have legal := header.legalBase_of_mem (hextra ▸ h)
    unfold Chip.LegalBase at legal
    exact .inr (by omega)

/-- A register of a chip is found at its own address. -/
lemma canonical_of_inBlock (bases : memory.sidBases = header.chipBases)
    (h : base ∈ header.chipBases) (block : Chip.InBlock base address) :
    memory.canonical address = address := by
  have legal := header.legalBase_of_mem h
  unfold Chip.InBlock at block
  unfold Chip.LegalBase at legal
  rw [← UInt16.toNat_inj, toNat_canonical]
  split_ifs with video sound
  · omega
  · have first : base.toNat = 0xD400 := by
      rcases base_of_firstChipRepeats bases sound.2 h with first | high
      · rw [first]
        rfl
      · omega
    omega
  all_goals omega

/-- What decodes into a chip's block lies in it, or where the first block repeats. -/
lemma inBlock_or_repeats (h : base ∈ header.chipBases)
    (block : Chip.InBlock base (memory.canonical address)) :
    Chip.InBlock base address ∨ memory.firstChipRepeats = true ∧
      0xD400 ≤ address.toNat ∧ address.toNat ≤ 0xD7FF := by
  have legal := header.legalBase_of_mem h
  unfold Chip.InBlock at block ⊢
  unfold Chip.LegalBase at legal
  rw [toNat_canonical] at block
  split_ifs at block with video sound timer port
  · omega
  · exact .inr ⟨sound.2, sound.1⟩
  · omega
  · omega
  · exact .inl block

end BankedMemory

/-! ## The observer's window -/

/-- What relates a choice to both of its sides relates a chain of choices to all that was on
offer. -/
lemma foldl_related {pick : UInt16 → UInt16 → UInt16} (related : UInt16 → UInt16 → Prop)
    (refl : ∀ a, related a a) (trans : ∀ {a b c}, related a b → related b c → related a c)
    (left : ∀ a b, related (pick a b) a) (right : ∀ a b, related (pick a b) b)
    (bases : List UInt16) (start : UInt16) :
    related (bases.foldl pick start) start ∧
      ∀ base ∈ bases, related (bases.foldl pick start) base := by
  induction bases generalizing start with
  | nil => exact ⟨refl start, nofun⟩
  | cons first rest ih =>
    obtain ⟨chosen, all⟩ := ih (pick start first)
    refine ⟨trans chosen (left start first), fun base h => ?_⟩
    rcases List.mem_cons.mp h with rfl | later
    · exact trans chosen (right start base)
    · exact all base later

lemma foldl_min_le {bases : List UInt16} (start : UInt16) {base : UInt16} (h : base ∈ bases) :
    (bases.foldl min start).toNat ≤ base.toNat := by
  refine (foldl_related (fun a b => a.toNat ≤ b.toNat) (fun a => Nat.le_refl a.toNat) Nat.le_trans
    (fun a b => ?_) (fun a b => ?_) bases start).2 base h
  · rw [UInt16.toNat_min]
    exact Nat.min_le_left _ _
  · rw [UInt16.toNat_min]
    exact Nat.min_le_right _ _

lemma le_foldl_max {bases : List UInt16} (start : UInt16) {base : UInt16} (h : base ∈ bases) :
    base.toNat ≤ (bases.foldl max start).toNat := by
  refine (foldl_related (fun a b => b.toNat ≤ a.toNat) (fun a => Nat.le_refl a.toNat)
    (fun late early => Nat.le_trans early late) (fun a b => ?_) (fun a b => ?_)
    bases start).2 base h
  · rw [UInt16.toNat_max]
    exact Nat.le_max_left _ _
  · rw [UInt16.toNat_max]
    exact Nat.le_max_right _ _

lemma foldl_max_le {bases : List UInt16} {start : UInt16} {bound : ℕ} (hstart : start.toNat ≤ bound)
    (h : ∀ base ∈ bases, base.toNat ≤ bound) : (bases.foldl max start).toNat ≤ bound := by
  induction bases generalizing start with
  | nil => exact hstart
  | cons first rest ih =>
    have known := h first List.mem_cons_self
    refine ih ?_ fun base later => h base (List.mem_cons_of_mem first later)
    rw [UInt16.toNat_max]
    omega

/-- **No store to a chip escapes the observer.**  The window contains every address that decodes
into the block of some chip. -/
lemma contains_chipWindow {memory : BankedMemory} {header : Header} {base address : UInt16}
    (h : base ∈ header.chipBases) (block : Chip.InBlock base (memory.canonical address)) :
    (Setup.chipWindow header.chipBases memory.firstChipRepeats).contains address = true := by
  obtain ⟨extra, hextra⟩ := header.chipBases_eq_cons
  have head : header.chipBases.headD Chip.firstBase = Chip.firstBase := by
    rw [hextra]
    rfl
  have low := foldl_min_le Chip.firstBase h
  have high := le_foldl_max Chip.firstBase h
  have top : (header.chipBases.foldl max Chip.firstBase).toNat ≤ 0xDFE0 :=
    foldl_max_le (by decide) fun other hother => by
      have legal := header.legalBase_of_mem hother
      unfold Chip.LegalBase at legal
      omega
  have last : (header.chipBases.foldl max Chip.firstBase + (Chip.blockSize - 1)).toNat =
      (header.chipBases.foldl max Chip.firstBase).toNat + 0x1F := by
    have size : (Chip.blockSize - 1).toNat = 0x1F := rfl
    rw [UInt16.toNat_add, size]
    omega
  have firstBase : Chip.firstBase.toNat = 0xD400 := rfl
  have repeatEnd : Chip.repeatEnd.toNat = 0xD7FF := rfl
  simp only [Setup.chipWindow, head]
  rcases BankedMemory.inBlock_or_repeats h block with own | ⟨repeats, range⟩
  · unfold Chip.InBlock at own
    split <;> simp only [Window.contains, Bool.and_eq_true, decide_eq_true_eq,
      UInt16.le_iff_toNat_le, UInt16.toNat_min, UInt16.toNat_max, last] <;> omega
  · rw [if_pos repeats]
    simp only [Window.contains, Bool.and_eq_true, decide_eq_true_eq, UInt16.le_iff_toNat_le,
      UInt16.toNat_min, UInt16.toNat_max, last]
    omega

/-! ## Registers -/

namespace Chip

variable {base : UInt16}

/-- The address belongs to one of a chip's registers; the rest of its block is not connected. -/
def IsRegister (base address : UInt16) : Prop :=
  base.toNat ≤ address.toNat ∧ address.toNat ≤ base.toNat + 0x18

lemma IsRegister.inBlock {address : UInt16} (h : IsRegister base address) :
    InBlock base address := by
  unfold IsRegister at h
  unfold InBlock
  omega

lemma isRegister_add (h : LegalBase base) {offset : UInt16} (small : offset.toNat ≤ 0x18) :
    IsRegister base (base + offset) := by
  unfold LegalBase at h
  rw [IsRegister, UInt16.toNat_add]
  omega

/-- The registers of the voices lie one behind the other. -/
lemma toNat_voiceRegister (h : LegalBase base) (voice : Fin voiceCount) {offset : UInt16}
    (small : offset.toNat < 7) :
    (voiceRegister base voice offset).toNat = base.toNat + 7 * voice + offset.toNat := by
  unfold LegalBase at h
  have hvoice : voice.val < 3 := voice.isLt
  have stride : voiceStride.toNat = 7 := rfl
  rw [voiceRegister, UInt16.toNat_add, UInt16.toNat_add, UInt16.toNat_mul, stride,
    UInt16.toNat_ofNat']
  omega

lemma isRegister_voiceRegister (h : LegalBase base) (voice : Fin voiceCount) {offset : UInt16}
    (small : offset.toNat < 7) : IsRegister base (voiceRegister base voice offset) := by
  have hvoice : voice.val < 3 := voice.isLt
  rw [IsRegister, toNat_voiceRegister h voice small]
  omega

lemma isRegister_control (h : LegalBase base) (voice : Fin voiceCount) :
    IsRegister base (voiceRegister base voice control) :=
  isRegister_voiceRegister h voice (by decide)

end Chip

end SidScore
