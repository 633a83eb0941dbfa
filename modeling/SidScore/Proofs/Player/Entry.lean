import SidScore.Proofs.Memory.Footprint
import SidScore.Proofs.Player.Calls
import SidScore.Proofs.Processor.Effects
import SidScore.Proofs.Tune.Format

/-!
# Where a tune starts

Three parts have to agree before the first instruction of a tune is one of its own.  Reading the
file keeps the init routine of an RSID out of the areas where something else than memory shows;
loading puts the program where the file says, or fails if it does not fit; and calling a routine of
a PSID chooses the configuration in which the routine's own address shows memory.
`Player.StartsInRam` states what comes of it, for every file that is read.

The two lowest addresses are left out: the processor's own registers answer there.
-/

namespace SidScore

/-! ## Loading -/

/-- **Bytes that are loaded** lie behind one another around the whole of memory, and every other
cell keeps its byte. -/
lemma Ram.peek_load (ram : Ram) (first : UInt16) {bytes : List UInt8}
    (few : bytes.length ≤ 65536) (address : UInt16) : (ram.load first bytes).peek address =
      bytes[(address - first).toNat]?.getD (ram.peek address) := by
  induction bytes generalizing ram first with
  | nil => rfl
  | cons byte bytes ih =>
    rw [List.length_cons] at few
    rw [load, ih _ _ (by omega), peek_poke]
    have bound := (address - first).toNat_lt
    have next : (address - (first + 1)).toNat = ((address - first).toNat + 65535) % 65536 := by
      have far := address.toNat_lt
      have start := first.toNat_lt
      have one : UInt16.toNat 1 = 1 := rfl
      rw [UInt16.toNat_sub, UInt16.toNat_sub, UInt16.toNat_add, one]
      omega
    by_cases here : first = address
    · subst here
      have last : bytes.length ≤ ((first - first).toNat + 65535) % 65536 := by
        rw [UInt16.sub_self]
        exact Nat.le_of_lt_succ few
      rw [if_pos rfl, next, List.getElem?_eq_none last, UInt16.sub_self]
      rfl
    · have apart : (address - first).toNat ≠ 0 := by
        intro zero
        have same : address - first = 0 := UInt16.toNat_inj.mp zero
        refine here ?_
        rw [← UInt16.add_zero first, ← same, UInt16.add_comm, UInt16.sub_add_cancel]
      obtain ⟨offset, hoffset⟩ := Nat.exists_eq_add_one_of_ne_zero apart
      have before : ((address - first).toNat + 65535) % 65536 = offset := by omega
      rw [if_neg here, next, before, hoffset, List.getElem?_cons_succ]

/-- Plain memory holds a tune's program where it is loaded, and zeros elsewhere.  The two cells
under the processor's registers are left open unless the program covers them. -/
structure TuneFile.LiesIn (file : TuneFile) (ram : Ram) : Prop where
  program : ∀ (i : ℕ) (h : i < file.program.length) (address : UInt16),
    address.toNat = file.loadAddress.toNat + i → ram.peek address = file.program[i]
  elsewhere : ∀ address : UInt16, 2 ≤ address →
    address.toNat < file.loadAddress.toNat ∨
      file.loadAddress.toNat + file.program.length ≤ address.toNat →
    ram.peek address = 0

namespace Setup

variable {setup : Setup}

lemma fits_iff : setup.fits = true ↔
    setup.file.loadAddress.toNat + setup.file.program.length ≤ 65536 :=
  decide_eq_true_iff

/-- A program that fits is where it belongs. -/
lemma liesIn_loadedMemory (fits : setup.fits = true) :
    setup.file.LiesIn setup.loadedMemory.ram := by
  have room := fits_iff.mp fits
  have loaded (address : UInt16) : setup.loadedMemory.ram.peek address =
      setup.file.program[(address - setup.file.loadAddress).toNat]?.getD
        (BankedMemory.powerOn.ram.peek address) :=
    Ram.peek_load _ _ (by omega) address
  have start := setup.file.loadAddress.toNat_lt
  refine ⟨fun i hi address place => ?_, fun address above outside => ?_⟩
  · have offset : (address - setup.file.loadAddress).toNat = i := by
      rw [UInt16.toNat_sub]
      omega
    rw [loaded, offset, List.getElem?_eq_getElem hi, Option.getD_some]
  · have far := address.toNat_lt
    have offset : setup.file.program.length ≤ (address - setup.file.loadAddress).toNat := by
      rw [UInt16.toNat_sub]
      omega
    have low : 2 ≤ address.toNat := UInt16.le_iff_toNat_le.mp above
    have zero : (0 : UInt16) ≠ address := by
      rintro rfl
      exact absurd low (by decide)
    have one : (1 : UInt16) ≠ address := by
      rintro rfl
      exact absurd low (by decide)
    rw [loaded, List.getElem?_eq_none offset, Option.getD_none, BankedMemory.powerOn,
      Ram.peek_poke, Ram.peek_poke, if_neg one, if_neg zero, Ram.peek_empty]

end Setup

/-! ## Banking -/

namespace BankedMemory

variable {memory : BankedMemory} {address : UInt16}

lemma romCell_hidden {n : ℕ} (rom : Option (Vector UInt8 (n + 1))) (address : UInt16) :
    romCell rom false address = .ram address := by
  cases rom <;> rfl

/-- A read reaches memory where nothing that shows in its place lies. -/
lemma source_of_hidden (above : 2 ≤ address.toNat)
    (basic : 0xA000 ≤ address.toNat → address.toNat < 0xC000 → memory.banking.state.basic = false)
    (chips : 0xD000 ≤ address.toNat → address.toNat < 0xE000 →
      memory.banking.state.io = false ∧ memory.banking.state.charRom = false)
    (kernal : 0xE000 ≤ address.toNat → memory.banking.state.kernal = false) :
    memory.source address = .ram address := by
  have zero : address ≠ 0 := by
    rintro rfl
    exact absurd above (by decide)
  have one : address ≠ 1 := by
    rintro rfl
    exact absurd above (by decide)
  unfold source
  simp only [if_neg zero, if_neg one, UInt16.lt_iff_toNat_lt, UInt16.reduceToNat]
  split_ifs with low basicArea between chipArea io
  · rfl
  · rw [basic (by omega) basicArea, romCell_hidden]
  · rfl
  · rw [(chips (by omega) chipArea).1] at io
    cases io
  · rw [(chips (by omega) chipArea).2, romCell_hidden]
  · rw [kernal (by omega), romCell_hidden]

/-- **The configuration chosen for an address** shows memory there. -/
lemma source_of_controlFor (above : 2 ≤ address.toNat)
    (control : memory.banking.control = Setup.controlFor address) :
    memory.source address = .ram address := by
  have state : memory.banking.state = .ofControl (Setup.controlFor address) :=
    congrArg BankState.ofControl control
  simp only [Setup.controlFor, UInt16.lt_iff_toNat_lt, UInt16.reduceToNat] at state
  refine source_of_hidden above (fun _ _ => ?_) (fun _ _ => ?_) fun _ => ?_
  · rw [state, if_neg (by omega), if_pos (by omega)]
    rfl
  · rw [state, if_neg (by omega), if_neg (by omega), if_pos (by omega)]
    exact ⟨rfl, rfl⟩
  · rw [state, if_neg (by omega), if_neg (by omega), if_neg (by omega)]
    rfl

/-- Free memory is not switched. -/
lemma source_of_free (free : TuneFormat.FreeAddress address.toNat) :
    memory.source address = .ram address := by
  obtain ⟨system, basic, chips⟩ := free
  refine source_of_hidden ?_ (fun above below => ?_) (fun above _ => ?_) fun above => ?_ <;> omega

end BankedMemory

/-! ## What was read -/

namespace TuneFile

open TuneFormat

variable {data : List UInt8} {file : TuneFile}

/-- Init starts at the address that the bytes name. -/
lemma Reads.toNat_initAddress (h : Reads data file) :
    file.initAddress.toNat = TuneFormat.initAddress data := by
  rw [initAddress, TuneFormat.initAddress]
  by_cases zero : file.header.initAddress = 0
  · rw [if_pos zero, if_pos ((word_eq_zero_iff h.header.initAddress).mp zero)]
    exact h.address
  · rw [if_neg zero, if_neg (mt (word_eq_zero_iff h.header.initAddress).mpr zero)]
    exact h.header.initAddress

/-- A tune that was read has no more subtunes than there are bytes to number them. -/
lemma songs_le_of_parse (parsed : parse data = .ok file) : file.header.songs.toNat ≤ 256 := by
  obtain ⟨accepted, reads⟩ := parse_decides.of_ok parsed
  rw [reads.header.songs]
  exact accepted.songs.2

/-- Init of an RSID that was read, and is not BASIC, lies in free memory. -/
lemma free_of_parse (parsed : parse data = .ok file) (rsid : file.header.format = .rsid)
    (machineCode : file.header.hasFlag Header.Flag.platformSpecific = false) :
    FreeAddress file.initAddress.toNat := by
  obtain ⟨accepted, reads⟩ := parse_decides.of_ok parsed
  have isRsid : IsRsid data := reads.header.rsid_iff.mpr rsid
  have later : TuneFormat.version data ≠ 1 := fun first => accepted.rsid_version ⟨isRsid, first⟩
  have notBasic : ¬ IsBasic data := by
    rw [← Header.hasFlag_platformSpecific_iff reads.header later, machineCode]
    exact Bool.false_ne_true
  rw [reads.toNat_initAddress]
  exact accepted.rsid_init isRsid notBasic

end TuneFile

/-! ## Entering a routine -/

/-- The processor fetches its next instruction from plain memory, not from a register or a ROM. -/
structure Machine.FetchesRam (machine : Machine BankedMemory) : Prop where
  source : machine.bus.source machine.cpu.pc = .ram machine.cpu.pc
  code : machine.code = machine.bus.ram.peek machine.cpu.pc

lemma Machine.fetchesRam_of_source {machine : Machine BankedMemory}
    (source : machine.bus.source machine.cpu.pc = .ram machine.cpu.pc) : machine.FetchesRam :=
  ⟨source, congrArg machine.bus.content source⟩

namespace Player

/-- The machine is before the first instruction of init for a subtune. -/
structure BeginsInit (file : TuneFile) (subtune : UInt16) (machine : Machine BankedMemory) :
    Prop where
  pc : machine.cpu.pc = file.initAddress
  /-- The accumulator has the subtune, counted from 0. -/
  a : machine.cpu.a.toNat + 1 = subtune.toNat
  x : machine.cpu.x = 0
  y : machine.cpu.y = 0
  sp : machine.cpu.sp = 0xFF
  flags : ∀ flag, machine.cpu.flags.get flag = false
  log : ∀ address, machine.bus.ram.access address = ⟨false, false⟩
  /-- The first byte that is fetched is one of memory, unless BASIC is to start the program. -/
  fetchesRam : 2 ≤ file.initAddress →
    file.header.format = .psid ∨ file.header.hasFlag Header.Flag.platformSpecific = false →
    machine.FetchesRam

/-- What the calls of a tune's routines start from, from loading on. -/
structure StartsInRam (setup : Setup) : Prop where
  /-- Loading fails exactly for a program that does not end within memory. -/
  load_fails : ∀ fault, Player.load setup = .error fault ↔
    65536 < setup.file.loadAddress.toNat + setup.file.program.length ∧
      fault = .programTooLarge setup.file.program.length setup.file.loadAddress
  /-- Otherwise the program is in memory, and nothing else is. -/
  load_lies : setup.file.loadAddress.toNat + setup.file.program.length ≤ 65536 →
    ∃ player, Player.load setup = .ok player ∧ player.setup = setup ∧
      setup.file.LiesIn player.machine.bus.ram
  /-- Init begins as it should for every subtune, whatever was called before. -/
  init : ∀ player : Player, player.setup = setup → ∀ subtune : UInt16,
    1 ≤ subtune → subtune ≤ setup.file.header.songs →
    setup.file.checkSubtune subtune = .ok () ∧
      BeginsInit setup.file subtune (enterInit setup subtune player.machine)
  /-- So does every call of the play routine of a PSID. -/
  play : setup.file.header.format = .psid → ∀ player : Player, player.setup = setup →
    ∀ address, player.timing.playAddress = some address → 2 ≤ address →
    (enterPlay setup address player.machine).cpu.pc = address ∧
      (enterPlay setup address player.machine).FetchesRam

variable {setup : Setup}

lemma load_eq_error_iff (fault : TuneFault) : Player.load setup = .error fault ↔
    65536 < setup.file.loadAddress.toNat + setup.file.program.length ∧
      fault = .programTooLarge setup.file.program.length setup.file.loadAddress := by
  cases fits : setup.fits with
  | true =>
    have room := Setup.fits_iff.mp fits
    rw [load_of_fits fits]
    exact ⟨nofun, fun ⟨beyond, _⟩ => absurd room (Nat.not_le_of_lt beyond)⟩
  | false =>
    have beyond := mt Setup.fits_iff.mpr (Bool.not_eq_true _ ▸ fits)
    rw [load_of_not_fits fits, Except.error.injEq, @eq_comm _ fault]
    exact (and_iff_right (Nat.lt_of_not_le beyond)).symm

/-- The registers and the log with which init is entered, and the byte that is fetched. -/
lemma beginsInit {data : List UInt8} (parsed : TuneFile.parse data = .ok setup.file)
    (machine : Machine BankedMemory) {subtune : UInt16} (first : 1 ≤ subtune)
    (last : subtune ≤ setup.file.header.songs) :
    BeginsInit setup.file subtune (enterInit setup subtune machine) where
  pc := rfl
  a := by
    have few := TuneFile.songs_le_of_parse parsed
    have low : 1 ≤ subtune.toNat := UInt16.le_iff_toNat_le.mp first
    have high := UInt16.le_iff_toNat_le.mp last
    have one : UInt16.toNat 1 = 1 := rfl
    show (lowByte (subtune - 1)).toNat + 1 = _
    rw [toNat_lowByte, UInt16.toNat_sub, one]
    omega
  x := rfl
  y := rfl
  sp := rfl
  flags flag := by cases flag <;> rfl
  log address := by
    show Access.mk _ _ = _
    rw [Access.mk.injEq]
    exact ⟨Ram.wasRead_clearLog _ address, Ram.wasWritten_clearLog _ address⟩
  fetchesRam above kind := by
    have outside : 2 ≤ setup.file.initAddress.toNat := UInt16.le_iff_toNat_le.mp above
    apply Machine.fetchesRam_of_source
    cases format : setup.file.header.format with
    | psid =>
      refine BankedMemory.source_of_controlFor outside ?_
      show setup.initControl = Setup.controlFor setup.file.initAddress
      rw [Setup.initControl, format]
    | rsid =>
      rw [format] at kind
      have machineCode := kind.resolve_left nofun
      exact BankedMemory.source_of_free (TuneFile.free_of_parse parsed format machineCode)

/-- The play routine of a PSID is entered where the memory shows. -/
lemma enterPlay_fetchesRam (psid : setup.file.header.format = .psid)
    (machine : Machine BankedMemory) {address : UInt16} (above : 2 ≤ address) :
    (enterPlay setup address machine).FetchesRam := by
  apply Machine.fetchesRam_of_source
  refine BankedMemory.source_of_controlFor (UInt16.le_iff_toNat_le.mp above) ?_
  show (setup.bankForPlay address machine.bus).banking.control = _
  rw [Setup.bankForPlay, psid]
  rfl

/-- **Every tune that is read starts with a byte of its own memory**, whatever the region, the
limits and the calls before. -/
theorem startsInRam_of_parse (data : List UInt8) (file : TuneFile)
    (parsed : TuneFile.parse data = .ok file) (region : Region) (options : PlayerOptions) :
    StartsInRam ⟨file, region, options⟩ where
  load_fails := load_eq_error_iff
  load_lies room :=
    have fits := Setup.fits_iff.mpr room
    ⟨_, load_of_fits fits, rfl, Setup.liesIn_loadedMemory fits⟩
  init player _ _ first last :=
    ⟨if_pos ⟨first, last⟩, beginsInit parsed player.machine first last⟩
  play psid player _ _ _ above := ⟨rfl, enterPlay_fetchesRam psid player.machine above⟩

/-- A PSID file with 256 subtunes, whose program is one `RTS` in the last cell of memory. -/
def lastCell : List UInt8 :=
  [0x50, 0x53, 0x49, 0x44, 0x00, 0x02, 0x00, 0x7C, 0xFF, 0xFF, 0xFF, 0xFF, 0xFF, 0xFF, 0x01, 0x00,
    0x00, 0x01] ++ List.replicate 106 0x00 ++ [0x60]

namespace lastCell

/-- What is read from it. -/
lemma parsed : ∃ file, TuneFile.parse lastCell = .ok file ∧ file.loadAddress = 0xFFFF ∧
    file.program = [0x60] ∧ file.header.songs = 256 ∧ file.initAddress = 0xFFFF ∧
      file.header.format = .psid := by
  have fields : (TuneFile.parse lastCell).toOption.map (fun file => (file.loadAddress,
      file.program, file.header.songs, file.initAddress, file.header.format)) =
      some (0xFFFF, [0x60], 256, 0xFFFF, .psid) := by
    decide +kernel
  cases result : TuneFile.parse lastCell with
  | error fault =>
    rw [result] at fields
    cases fields
  | ok file =>
    rw [result] at fields
    simp only [Except.toOption, Option.map_some, Option.some.injEq, Prod.mk.injEq] at fields
    exact ⟨file, rfl, fields⟩

/-- The file is read and fits, and init of its last subtune starts with that `RTS`, though the
KERNAL would show there after power-on. -/
theorem last_subtune_starts : ∃ file, TuneFile.parse lastCell = .ok file ∧
    ∃ player, Player.load ⟨file, .pal, .default⟩ = .ok player ∧
      (enterInit player.setup 256 player.machine).cpu.a = 0xFF ∧
      (enterInit player.setup 256 player.machine).code = 0x60 := by
  obtain ⟨file, read, address, program, songs, init, psid⟩ := parsed
  obtain ⟨-, load_lies, begins, -⟩ :=
    startsInRam_of_parse lastCell file read .pal .default
  obtain ⟨player, loaded, plays, lies⟩ := load_lies (by rw [address, program]; decide)
  obtain ⟨-, entered⟩ := begins player plays 256 (by decide) (by rw [songs]; decide)
  refine ⟨file, read, player, loaded, ?_, ?_⟩
  · have number := entered.a
    rw [← UInt8.toNat_inj, plays]
    exact Nat.succ.inj number
  · have byte := (entered.fetchesRam (by rw [init]; decide) (.inl psid)).code
    have cell : player.machine.bus.ram.peek 0xFFFF = 0x60 := by
      have first := lies.program 0 (by rw [program]; decide) 0xFFFF (by rw [address]; rfl)
      simp only [program] at first
      exact first
    -- Setting the control byte has written to the cell under it only.
    have kept (control : UInt8) : (player.machine.bus.ram.poke 1 control).peek 0xFFFF = 0x60 := by
      rw [Ram.peek_poke, if_neg (by decide), cell]
    rw [entered.pc, init] at byte
    rw [plays, byte]
    exact kept _

end lastCell

end Player

end SidScore
