import SidScore.Proofs.Chip.Decoding
import SidScore.Proofs.Memory.History

/-!
# Whose register a store reaches

The bases that a header gives its chips are apart, so their blocks share no address
(`Header.PlacesChips`).  Decoding maps an address to the one register that answers for it, in one
block at most, and every address that leads into a block is under observation
(`BankedMemory.DecodesChips`).  So no register of a chip changes without an entry in the list of
observed stores, through whatever address it was reached.

The two belong together through the first chip's repetition: it brings addresses far from the block
into it, and ends where another chip is decoded.
-/

namespace SidScore

/-! ## Bases apart -/

namespace Header

variable {header : Header}

lemma nodup_addTo {bases : List UInt16} (h : bases.Nodup) (byte : UInt8) :
    ((ChipPlacement.of bases byte).addTo bases).Nodup := by
  unfold ChipPlacement.of
  split
  · exact h
  · split
    · split
      · exact h
      · next fresh =>
        refine List.nodup_append.mpr ⟨h, List.nodup_cons.mpr ⟨nofun, List.nodup_nil⟩, ?_⟩
        rintro old known new only rfl
        exact fresh (List.mem_singleton.mp only ▸ known)
    · exact h

lemma length_addTo_le (bases : List UInt16) (placement : ChipPlacement) :
    (placement.addTo bases).length ≤ bases.length + 1 := by
  cases placement with
  | placed base => exact (List.length_append.trans rfl).le
  | _ => exact Nat.le_succ _

lemma nodup_chipBases : header.chipBases.Nodup :=
  nodup_addTo (nodup_addTo (by decide) _) _

lemma length_chipBases_le : header.chipBases.length ≤ 3 := by
  have third := length_addTo_le header.firstBases header.thirdPlacement
  have second := length_addTo_le [Chip.firstBase] header.secondPlacement
  exact third.trans (Nat.succ_le_succ second)

end Header

namespace Chip

variable {base other address : UInt16}

/-- Blocks that share an address are one. -/
lemma LegalBase.eq_of_inBlock (h : LegalBase base) (h' : LegalBase other)
    (block : InBlock base address) (block' : InBlock other address) : base = other := by
  unfold LegalBase at h h'
  unfold InBlock at block block'
  rw [← UInt16.toNat_inj]
  omega

lemma LegalBase.inRegisterArea (h : LegalBase base) (block : InBlock base address) :
    BankedMemory.InRegisterArea address := by
  unfold LegalBase at h
  unfold InBlock at block
  simp only [BankedMemory.InRegisterArea, UInt16.le_iff_toNat_le, UInt16.lt_iff_toNat_lt,
    UInt16.reduceToNat]
  omega

end Chip

/-- Where a header places its chips. -/
structure Header.PlacesChips (header : Header) : Prop where
  count : 1 ≤ header.chipBases.length ∧ header.chipBases.length ≤ 3
  first : header.chipBases.head? = some 0xD400
  apart : header.chipBases.Nodup
  /-- The others lie on multiples of 32 in one of two ranges. -/
  extra : ∀ base ∈ header.chipBases.tail, base.toNat % 0x20 = 0 ∧
    ((0xD420 ≤ base.toNat ∧ base.toNat ≤ 0xD7E0) ∨ (0xDE00 ≤ base.toNat ∧ base.toNat ≤ 0xDFE0))
  disjoint : ∀ base ∈ header.chipBases, ∀ other ∈ header.chipBases, base ≠ other →
    ∀ address, Chip.InBlock base address → ¬ Chip.InBlock other address
  inside : ∀ base ∈ header.chipBases, ∀ address, Chip.InBlock base address →
    BankedMemory.InRegisterArea address

/-- Every header does, whatever its bytes. -/
lemma Header.placesChips (header : Header) : header.PlacesChips where
  count := by
    obtain ⟨extra, hextra⟩ := header.chipBases_eq_cons
    refine ⟨?_, length_chipBases_le⟩
    rw [hextra, List.length_cons]
    exact Nat.le_add_left _ _
  first := by
    obtain ⟨extra, hextra⟩ := header.chipBases_eq_cons
    rw [hextra]
    rfl
  apart := nodup_chipBases
  extra base h := by
    obtain ⟨extra, hextra⟩ := header.chipBases_eq_cons
    have legal := header.legalBase_of_mem (List.mem_of_mem_tail h)
    have distinct := header.nodup_chipBases
    rw [hextra, List.tail_cons] at h
    rw [hextra, List.nodup_cons] at distinct
    have other : base.toNat ≠ Chip.firstBase.toNat := fun same =>
      distinct.1 (UInt16.toNat_inj.mp same ▸ h)
    have first : Chip.firstBase.toNat = 0xD400 := rfl
    unfold Chip.LegalBase at legal
    omega
  disjoint base h other h' differ address block block' :=
    differ ((legalBase_of_mem h).eq_of_inBlock (legalBase_of_mem h') block block')
  inside _ h _ := (legalBase_of_mem h).inRegisterArea

namespace BankedMemory

variable {memory : BankedMemory} {header : Header}

/-! ## Decoding and the observer -/

/-- How a memory decodes the blocks of chips, and what the observer sees of it. -/
structure DecodesChips (bases : List UInt16) (memory : BankedMemory) : Prop where
  area : ∀ address, InRegisterArea address → InRegisterArea (memory.canonical address)
  idempotent : ∀ address,
    memory.canonical (memory.canonical address) = memory.canonical address
  own : ∀ base ∈ bases, ∀ address, Chip.InBlock base address →
    memory.canonical address = address
  /-- No address leads into two blocks. -/
  unambiguous : ∀ base ∈ bases, ∀ other ∈ bases, ∀ address,
    Chip.InBlock base (memory.canonical address) →
    Chip.InBlock other (memory.canonical address) → base = other
  observes : ∀ base ∈ bases, ∀ address, Chip.InBlock base (memory.canonical address) →
    memory.observes address = true
  /-- A store that changes a register of a chip is listed. -/
  recorded : ∀ base ∈ bases, ∀ register, Chip.InBlock base register → ∀ address value,
    (memory.store address value).ioRegister register ≠ memory.ioRegister register →
    (memory.store address value).observed = memory.observed.push ⟨address, value⟩

lemma canonical_canonical (memory : BankedMemory) (address : UInt16) :
    memory.canonical (memory.canonical address) = memory.canonical address := by
  have once := memory.toNat_canonical address
  have twice := memory.toNat_canonical (memory.canonical address)
  rw [← UInt16.toNat_inj]
  cases repeats : memory.firstChipRepeats <;>
  · simp only [repeats, Bool.false_eq_true, and_false, and_true, if_false] at once twice
    split_ifs at once twice <;> omega

/-- An unconnected register reads the same whatever is stored. -/
lemma ioRegister_store_of_hardwired {register : UInt16}
    (unwired : hardwired (memory.canonical register) = true) (address : UInt16) (value : UInt8) :
    (memory.store address value).ioRegister register = memory.ioRegister register := by
  have cell (other : BankedMemory) (bases : other.sidBases = memory.sidBases) :
      other.registerCell register = .unconnected := by
    rw [registerCell, canonical_congr bases]
    exact if_pos unwired
  rw [ioRegister, ioRegister, cell _ (sidBases_store memory address value), cell _ rfl]
  rfl

/-- A register that a store changes is the one that the address decodes to. -/
lemma canonical_eq_of_ioRegister_store_ne {register address : UInt16} {value : UInt8}
    (area : InRegisterArea register) (own : memory.canonical register = register)
    (changed : (memory.store address value).ioRegister register ≠ memory.ioRegister register) :
    memory.canonical address = register := by
  cases wired : hardwired register with
  | true => exact absurd (ioRegister_store_of_hardwired (own.symm ▸ wired) address value) changed
  | false =>
    have connected : memory.Connected register := ⟨area, own, wired⟩
    rw [connected.ioRegister_store] at changed
    by_contra elsewhere
    exact changed (if_neg fun reached => elsewhere reached.2)

/-- **Decoding as loading sets it up.** -/
lemma decodesChips (bases : memory.sidBases = header.chipBases)
    (window : memory.window =
      some (Setup.chipWindow header.chipBases memory.firstChipRepeats)) :
    memory.DecodesChips header.chipBases := by
  have observes (base : UInt16) (h : base ∈ header.chipBases) (address : UInt16)
      (block : Chip.InBlock base (memory.canonical address)) : memory.observes address = true := by
    rw [BankedMemory.observes, window]
    exact contains_chipWindow h block
  refine ⟨fun _ => memory.canonical_inRegisterArea, memory.canonical_canonical,
    fun _ h _ => canonical_of_inBlock bases h, fun base h other h' address block block' => ?_,
    observes, fun base h register block address value changed => ?_⟩
  · exact (header.legalBase_of_mem h).eq_of_inBlock (header.legalBase_of_mem h') block block'
  · have decodes := canonical_eq_of_ioRegister_store_ne
      ((header.legalBase_of_mem h).inRegisterArea block) (canonical_of_inBlock bases h block)
      changed
    rw [observed_store, observes base h address (decodes.symm ▸ block), if_pos rfl]

end BankedMemory

namespace Setup

/-- **A store reaches the registers of one chip at most, and never unseen.**  This holds in every
memory with the chips and the window that loading the tune sets, and nothing changes these two. -/
theorem chips_decoded_apart (setup : Setup) : setup.file.header.PlacesChips ∧
    ∀ memory : BankedMemory, memory.sidBases = setup.loadedMemory.sidBases →
      memory.window = setup.loadedMemory.window →
      memory.DecodesChips setup.file.header.chipBases := by
  refine ⟨setup.file.header.placesChips, fun memory bases window => ?_⟩
  have repeats : memory.firstChipRepeats = setup.loadedMemory.firstChipRepeats := by
    rw [BankedMemory.firstChipRepeats, BankedMemory.firstChipRepeats, bases]
  refine BankedMemory.decodesChips bases (window.trans ?_)
  rw [repeats]
  rfl

/-- A tune with two more chips beyond the first one's repetitions, in descending order. -/
def threeChips : Setup where
  file :=
    { header := { (default : Header) with version := 4, secondSid := 0xFE, thirdSid := 0xE0 }
      program := []
      loadAddress := 0x0200 }
  region := .pal
  options := .default

namespace threeChips

/-- A store to `$D5E4` is one to the control register of the first chip's first voice, and it is
seen. -/
theorem repetition_observed : threeChips.file.header.chipBases = [0xD400, 0xDFE0, 0xDE00] ∧
    threeChips.loadedMemory.canonical 0xD5E4 = 0xD404 ∧
    threeChips.loadedMemory.observes 0xD5E4 = true ∧
    (threeChips.loadedMemory.store 0xD5E4 0x41).observed =
      threeChips.loadedMemory.observed.push ⟨0xD5E4, 0x41⟩ := by
  have bases : threeChips.file.header.chipBases = [0xD400, 0xDFE0, 0xDE00] := by decide
  have first : (0xD400 : UInt16) ∈ threeChips.file.header.chipBases := by
    rw [bases]
    exact List.mem_cons_self
  have decodes : threeChips.loadedMemory.canonical 0xD5E4 = 0xD404 := by decide +kernel
  have block : Chip.InBlock 0xD400 0xD404 := ⟨by decide, by decide⟩
  have chips := (chips_decoded_apart threeChips).2 threeChips.loadedMemory rfl rfl
  refine ⟨bases, decodes, chips.observes _ first _ (decodes.symm ▸ block), ?_⟩
  exact chips.recorded _ first _ block _ _ (by decide +kernel)

end threeChips

end Setup

end SidScore
