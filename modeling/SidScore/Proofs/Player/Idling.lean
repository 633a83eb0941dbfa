import SidScore.Proofs.Player.Calls
import SidScore.Proofs.Processor.EmptyStack

/-!
# Where init is taken to idle

Init has ended, it is said, once an instruction leaves the program counter where it was: then the
routine waits for interrupts in a jump to itself.  `Machine.Idles` is what such waiting means, that
nothing but the cycle count and the log of reads ever changes again.

Of a jump or a taken branch it is true.  Such an instruction does nothing but move the program
counter, so it comes back to itself for ever.  But a call, an interrupt or a return that lands on
its own address has moved the stack pointer, and the same instruction does something else the next
time: a return takes the next address off the stack and goes on.  `Machine.StopsInPlace` sorts the
cases.
-/

namespace SidScore

/-! ## Reading only -/

namespace BankedMemory

/-- The memory was read from, at most. -/
def OnlyRead (before after : BankedMemory) : Prop :=
  ∃ readLog, after = { before with ram.readLog := readLog }

variable {first second third : BankedMemory}

lemma OnlyRead.refl (memory : BankedMemory) : OnlyRead memory memory :=
  ⟨memory.ram.readLog, rfl⟩

lemma OnlyRead.trans (h : OnlyRead first second) (h' : OnlyRead second third) :
    OnlyRead first third := by
  obtain ⟨_, rfl⟩ := h
  obtain ⟨readLog, rfl⟩ := h'
  exact ⟨readLog, rfl⟩

/-- Every address still holds what it held. -/
lemma OnlyRead.fetch (h : OnlyRead first second) (address : UInt16) :
    second.fetch address = first.fetch address := by
  obtain ⟨readLog, rfl⟩ := h
  rw [BankedMemory.fetch, BankedMemory.fetch]
  show _ = first.content (BankedMemory.source { first with ram.readLog := readLog } address)
  cases BankedMemory.source { first with ram.readLog := readLog } address <;> rfl

lemma OnlyRead.simulation : Bus.SimulationOn (fun _ => True) (fun _ => False) OnlyRead where
  read := by
    intro first second address _ h
    refine ⟨(h.fetch address).symm, ?_⟩
    obtain ⟨readLog, rfl⟩ := h
    exact ⟨_, rfl⟩
  write _ admitted := admitted.elim

/-- A program that writes nothing reads only. -/
lemma onlyRead_run {α : Type} (program : BusProgram α) (memory : BankedMemory)
    (h : program.writes memory = []) : OnlyRead memory (program.run memory).2 := by
  induction program generalizing memory with
  | done value => exact .refl memory
  | read address next ih =>
    have marked : OnlyRead memory (memory.markRead address) := ⟨_, rfl⟩
    exact marked.trans (ih _ _ h)
  | write address value next ih => cases h

end BankedMemory

/-! ## Jumps -/

/-- Jumps and branches leave everything alone but the program counter. -/
lemma Mnemonic.jumps_table {mnemonic : Mnemonic}
    (h : mnemonic = .jmp ∨ mnemonic.condition?.isSome = true) (mode : Mode) :
    mnemonic.isExecutable = true ∧ mnemonic.destination? mode = none ∧
      (mnemonic.pushes = 0 ∧ mnemonic.pulls = 0) ∧ mnemonic.affected = [] ∧
        mnemonic.writesBack = false ∧ ∀ kind : Return, mnemonic ≠ kind.mnemonic := by
  cases mnemonic with
  | jmp | bcc | bcs | bne | beq | bpl | bmi | bvc | bvs =>
    exact ⟨rfl, rfl, ⟨rfl, rfl⟩, rfl, rfl, fun kind => by cases kind <;> nofun⟩
  | _ => simp [condition?] at h

/-- Besides `JMP`, what goes elsewhere whatever the flags uses the stack. -/
lemma Mnemonic.transfers_table {mnemonic : Mnemonic} (h : mnemonic.transfers = true) :
    mnemonic = .jmp ∨ mnemonic ∈ [.jsr, .brk, .rts, .rti] ∧ mnemonic ≠ .txs ∧
      mnemonic.pushes ≠ mnemonic.pulls := by
  cases mnemonic with
  | jmp => exact .inl rfl
  | jsr | brk | rts | rti => exact .inr (by decide)
  | _ => cases h

namespace Machine

section AnyBus

variable {M : Type} [Bus M] (machine : Machine M)

/-- The next instruction moves the program counter and does nothing else: a jump, or a branch whose
condition holds. -/
def Jumps : Prop :=
  machine.next = .jmp ∨ machine.next.branches machine.cpu.flags = true

/-- The next instruction is such a one, and leads to itself. -/
def LoopsInPlace : Prop :=
  machine.Jumps ∧ machine.step.2.cpu.pc = machine.cpu.pc

variable {machine}

lemma Jumps.kind (h : machine.Jumps) :
    machine.next = .jmp ∨ machine.next.condition?.isSome = true := by
  refine h.imp_right fun taken => ?_
  rw [Mnemonic.branches, Option.any_eq_true] at taken
  obtain ⟨condition, conditional, -⟩ := taken
  rw [conditional]
  rfl

lemma Jumps.goesOn (h : machine.Jumps) : machine.step.1 = .ok .continued := by
  obtain ⟨executable, -, -, -, -, straight⟩ := Mnemonic.jumps_table h.kind machine.fetched.mode
  exact step_continues executable fun kind empty => straight kind empty.next

/-- An instruction that neither writes its operand nor pushes writes nothing. -/
lemma writes_eq_nil (executable : machine.next.isExecutable = true)
    (elsewhere : machine.next.writesBack = false) (pushes : machine.next.pushes = 0) :
    machine.cpu.step.writes machine.bus = [] := by
  rw [writes_step executable, execution, Processor.writes_execute, elsewhere, pushes]
  rfl

lemma Jumps.writes (h : machine.Jumps) : machine.cpu.step.writes machine.bus = [] := by
  obtain ⟨executable, -, ⟨pushes, -⟩, -, elsewhere, -⟩ :=
    Mnemonic.jumps_table h.kind machine.fetched.mode
  exact writes_eq_nil executable elsewhere pushes

/-- A jump goes to its operand's address. -/
lemma Jumps.pc (h : machine.Jumps) : machine.step.2.cpu.pc =
    machine.located.1.operand.address?.getD
      (machine.cpu.pc + machine.fetched.size.toUInt16) := by
  obtain ⟨executable, -⟩ := Mnemonic.jumps_table h.kind machine.fetched.mode
  rw [step_eq_execute executable, execution, ← ready_pc machine.located.1.crossedPage]
  rcases h with jmp | taken
  · rw [jmp]
    cases machine.located.1.operand <;> rfl
  · cases conditional : machine.next.condition? with
    | none => simp [Mnemonic.branches, conditional] at taken
    | some condition =>
      have holds : condition machine.cpu.flags = true := by
        simpa [Mnemonic.branches, conditional] using taken
      have flags : (machine.ready machine.located.1.crossedPage).flags = machine.cpu.flags := rfl
      rw [Processor.execute_branch _ conditional, flags, holds]
      cases machine.located.1.operand <;> rfl

/-- An instruction that neither branches nor goes elsewhere goes on behind itself. -/
lemma pc_step_ne (goesOn : machine.step.1 = .ok .continued)
    (straight : machine.next.transfers = false)
    (untaken : machine.next.branches machine.cpu.flags = false) :
    machine.step.2.cpu.pc ≠ machine.cpu.pc := by
  have stays := ((machine.ready machine.located.1.crossedPage).execute_goesOn
    (o := machine.located.1.operand) straight untaken located_writable).run machine.located.2
  have behind : machine.step.2.cpu.pc = machine.cpu.pc + machine.fetched.size.toUInt16 := by
    rw [step_eq_execute (isExecutable_of_ok goesOn), ← ready_pc]
    exact stays.pc
  have few : 0 < machine.fetched.size.toNat ∧ machine.fetched.size.toNat ≤ 3 :=
    Opcode.size_toNat_bounds machine.code
  have bound := machine.cpu.pc.toNat_lt
  rw [behind, Ne, ← UInt16.toNat_inj, UInt16.toNat_add, UInt8.toNat_toUInt16]
  omega

/-- An instruction that does not pull as much as it pushes moves the stack pointer. -/
lemma sp_step_ne (goesOn : machine.step.1 = .ok .continued) (other : machine.next ≠ .txs)
    (uneven : machine.next.pushes ≠ machine.next.pulls) :
    machine.step.2.cpu.sp ≠ machine.cpu.sp := by
  intro same
  have moved := sp_step other
  have few := machine.next.stack_bounds
  have bound := machine.cpu.sp.toNat_lt
  rw [same, stackChange_of_continued goesOn] at moved
  omega

/-- **What leaves the program counter in place.**  It is a jump, or it has moved the stack
pointer. -/
lemma jumps_or_of_inPlace (goesOn : machine.step.1 = .ok .continued)
    (inPlace : machine.step.2.cpu.pc = machine.cpu.pc) :
    machine.Jumps ∨ machine.next ∈ [.jsr, .brk, .rts, .rti] ∧
      machine.step.2.cpu.sp ≠ machine.cpu.sp := by
  cases transfers : machine.next.transfers with
  | true =>
    rcases Mnemonic.transfers_table transfers with jmp | ⟨stack, other, uneven⟩
    · exact .inl (.inl jmp)
    · exact .inr ⟨stack, sp_step_ne goesOn other uneven⟩
  | false =>
    cases taken : machine.next.branches machine.cpu.flags with
    | true => exact .inl (.inr taken)
    | false => exact absurd inPlace (pc_step_ne goesOn transfers taken)

end AnyBus

/-! ## Waiting -/

open BankedMemory (OnlyRead)

/-- Nothing has changed but the cycle count and the log of reads. -/
structure Rests (machine later : Machine BankedMemory) : Prop where
  pc : later.cpu.pc = machine.cpu.pc
  a : later.cpu.a = machine.cpu.a
  x : later.cpu.x = machine.cpu.x
  y : later.cpu.y = machine.cpu.y
  sp : later.cpu.sp = machine.cpu.sp
  flags : later.cpu.flags = machine.cpu.flags
  bus : OnlyRead machine.bus later.bus

/-- The processor waits: it goes through one instruction after another, and none of them changes a
register, a flag or a byte of memory, or stores anything. -/
structure Idles (machine : Machine BankedMemory) : Prop where
  goesOn : ∀ n, (machine.after n).step.1 = .ok .continued
  rests : ∀ n, machine.Rests (machine.after n)
  writes : ∀ n, machine.writes n = []

variable {machine first second third : Machine BankedMemory}

lemma Rests.refl (machine : Machine BankedMemory) : machine.Rests machine :=
  ⟨rfl, rfl, rfl, rfl, rfl, rfl, .refl _⟩

lemma Rests.trans (h : first.Rests second) (h' : second.Rests third) : first.Rests third where
  pc := h'.pc.trans h.pc
  a := h'.a.trans h.a
  x := h'.x.trans h.x
  y := h'.y.trans h.y
  sp := h'.sp.trans h.sp
  flags := h'.flags.trans h.flags
  bus := h.bus.trans h'.bus

/-- The same instruction comes next. -/
lemma fetched_of_onlyRead (pc : second.cpu.pc = first.cpu.pc)
    (bus : OnlyRead first.bus second.bus) : second.fetched = first.fetched := by
  have byte : (Bus.read second.bus second.cpu.pc).1 = (Bus.read first.bus first.cpu.pc).1 := by
    rw [pc]
    exact bus.fetch first.cpu.pc
  rw [fetched, fetched, byte]

/-- It has the same operand. -/
lemma Rests.located (h : first.Rests second) : second.located.1 = first.located.1 := by
  have read : OnlyRead (Bus.read first.bus first.cpu.pc).2 (Bus.read second.bus second.cpu.pc).2 :=
    by
      rw [h.pc]
      exact (OnlyRead.simulation.read trivial h.bus).2
  have program (mode : Mode) :
      Processor.locate { second.cpu with fetchedAt := second.cpu.pc } mode =
        Processor.locate { first.cpu with fetchedAt := first.cpu.pc } mode :=
    Processor.locate_congr h.pc h.x h.y mode
  rw [Machine.located, Machine.located, fetched_of_onlyRead h.pc h.bus, program]
  refine (OnlyRead.simulation.run _ read (fun _ _ => trivial) fun address written => ?_).1.symm
  rw [Processor.writes_locate] at written
  cases written

/-- A jump to itself is one still. -/
lemma Rests.loopsInPlace (h : first.Rests second) (loops : first.LoopsInPlace) :
    second.LoopsInPlace := by
  have same := fetched_of_onlyRead h.pc h.bus
  have jumps : second.Jumps := by
    rw [Jumps, next, same, h.flags]
    exact loops.1
  refine ⟨jumps, ?_⟩
  rw [jumps.pc, h.located, same, h.pc, ← loops.1.pc, loops.2]

/-- A jump to itself changes nothing. -/
lemma LoopsInPlace.rests (h : machine.LoopsInPlace) : machine.Rests machine.step.2 := by
  obtain ⟨-, nowhere, ⟨pushes, pulls⟩, affected, -, -⟩ :=
    Mnemonic.jumps_table h.1.kind machine.fetched.mode
  obtain ⟨registers, stackPointer, flags⟩ := step_leaves h.1.goesOn
  rw [nowhere] at registers stackPointer
  rw [affected] at flags
  refine ⟨h.2, registers .accumulator nofun nofun, registers .indexX nofun nofun,
    registers .indexY nofun nofun, ?_, ?_, ?_⟩
  · rw [stackPointer nofun, pushes, pulls]
    simp
  · exact Flags.eq_of_get fun flag => flags flag List.not_mem_nil
  · exact BankedMemory.onlyRead_run _ _ h.1.writes

/-- **A jump to itself waits.** -/
lemma LoopsInPlace.idles (h : machine.LoopsInPlace) : machine.Idles := by
  have rests (n : ℕ) : machine.Rests (machine.after n) := by
    induction n with
    | zero => exact .refl machine
    | succ n ih => exact ih.trans (ih.loopsInPlace h).rests
  have loops (n : ℕ) : (machine.after n).LoopsInPlace := (rests n).loopsInPlace h
  refine ⟨fun n => (loops n).1.goesOn, rests, fun n => ?_⟩
  induction n with
  | zero => rfl
  | succ n ih => rw [writes_succ, ih, (loops n).1.writes, List.append_nil]

/-- Nothing else does. -/
lemma Idles.loopsInPlace (h : machine.Idles) : machine.LoopsInPlace := by
  obtain ⟨pc, -, -, -, sp, -, -⟩ := h.rests 1
  rcases jumps_or_of_inPlace (h.goesOn 0) pc with jumps | ⟨-, moved⟩
  · exact ⟨jumps, pc⟩
  · exact absurd sp moved

/-! ## The end of init -/

/-- What it means that an instruction has left the program counter in place. -/
structure StopsInPlace (last stopped : Machine BankedMemory) : Prop where
  step : last.step = (.ok .continued, stopped)
  pc : stopped.cpu.pc = last.cpu.pc
  /-- The processor waits exactly if a jump to itself is what comes next. -/
  idles_iff : stopped.Idles ↔ stopped.LoopsInPlace
  /-- It does wait if a jump has led here. -/
  jumped : last.Jumps → stopped.Idles
  /-- Whatever else leads here has moved the stack pointer. -/
  moved : ¬ last.Jumps →
    last.next ∈ [.jsr, .brk, .rts, .rti] ∧ stopped.cpu.sp ≠ last.cpu.sp
  /-- Behind a return the processor does not wait: the return comes once more. -/
  returned : last.next = .rts ∨ last.next = .rti → ¬ stopped.Idles

/-- A return that leads to itself comes once more. -/
lemma not_idles_of_return (kind : Return) (next : machine.next = kind.mnemonic)
    (inPlace : machine.step.2.cpu.pc = machine.cpu.pc) : ¬ machine.step.2.Idles := by
  intro idles
  have writes : machine.cpu.step.writes machine.bus = [] := by
    apply writes_eq_nil <;> rw [next] <;> cases kind <;> rfl
  have again : machine.step.2.next = kind.mnemonic := by
    rw [Machine.next, fetched_of_onlyRead inPlace (BankedMemory.onlyRead_run _ _ writes)]
    exact next
  have jump := idles.loopsInPlace.1.kind
  rw [again] at jump
  cases kind <;> rcases jump with jump | jump <;> cases jump

/-- Any instruction that goes on and leaves the program counter in place. -/
lemma stopsInPlace (goesOn : machine.step.1 = .ok .continued)
    (inPlace : machine.step.2.cpu.pc = machine.cpu.pc) :
    machine.StopsInPlace machine.step.2 where
  step := Prod.ext goesOn rfl
  pc := inPlace
  idles_iff := ⟨Idles.loopsInPlace, LoopsInPlace.idles⟩
  jumped jumps :=
    have loops : machine.LoopsInPlace := ⟨jumps, inPlace⟩
    (loops.rests.loopsInPlace loops).idles
  moved other := (jumps_or_of_inPlace goesOn inPlace).resolve_left other
  returned next := next.elim (fun rts => not_idles_of_return .fromSubroutine rts inPlace)
    fun rti => not_idles_of_return .fromInterrupt rti inPlace

end Machine

namespace Player

/-- **Where init is taken to idle** it waits if it has come there by a jump, and does not if it has
come there by a return. -/
theorem initRun_stopsInPlace (player : Player) (subtune : UInt16) (run : RoutineRun)
    (stopped : Machine BankedMemory) (ran : player.initRun subtune = (.ok run, stopped))
    (idle : run.ending = .idle) :
    ((enterInit player.setup subtune player.machine).after
      (run.instructions - 1)).StopsInPlace stopped := by
  obtain ⟨n, count, ⟨outcome, result, ends⟩, rfl⟩ := Machine.endsAt_of_runRoutine ran
  rw [idle, Routine.ending?_eq_idle_iff] at ends
  obtain ⟨rfl, -, -, inPlace⟩ := ends
  rw [count]
  exact Machine.stopsInPlace result inPlace

/-- A PSID tune whose init routine starts a program at `$0200`, and whose play routine is the
return that the program ends with. -/
def tuneOf (program : List UInt8) : Setup where
  file :=
    { header := { (default : Header) with
        version := 2, initAddress := 0x0200, songs := 1, startSong := 1
        playAddress := 0x0200 + UInt16.ofNat program.length - 1 }
      program
      loadAddress := 0x0200 }
  region := .pal
  options := .default

lemma initRun_of_toOption (player : Player) (subtune : UInt16) (run : RoutineRun)
    (h : (player.initRun subtune).1.toOption = some run) :
    player.initRun subtune = (.ok run, (player.initRun subtune).2) := by
  cases result : (player.initRun subtune).1 with
  | error fault =>
    rw [result] at h
    cases h
  | ok other =>
    rw [result] at h
    cases h
    exact Prod.ext result rfl

/-- `LDA #$20`, `STA $0314`, and a jump to itself. -/
def waitingTune : Setup :=
  tuneOf [0xA9, 0x20, 0x8D, 0x14, 0x03, 0x4C, 0x05, 0x02, 0x60]

namespace waitingTune

/-- The theorem at this tune: its init routine waits at the jump, behind three instructions. -/
theorem init_waits : ((loaded waitingTune).initRun 1).1 = .ok ⟨3, .idle⟩ ∧
    ((loaded waitingTune).initRun 1).2.cpu.pc = 0x0205 ∧
    ((loaded waitingTune).initRun 1).2.Idles := by
  have ran := initRun_of_toOption (loaded waitingTune) 1 ⟨3, .idle⟩ (by decide +kernel)
  have stops := initRun_stopsInPlace (loaded waitingTune) 1 ⟨3, .idle⟩ _ ran rfl
  have jumps : ((enterInit waitingTune 1 (loaded waitingTune).machine).after 2).next = .jmp := by
    decide +kernel
  exact ⟨congrArg Prod.fst ran, by decide +kernel, stops.jumped (.inl jumps)⟩

end waitingTune

/-- A return with its own address on the stack, and below that the address of `LDA #$41`,
`STA $0220`, `RTS`. -/
def returnToItself : Setup :=
  tuneOf [0xA9, 0x02, 0x48, 0xA9, 0x0C, 0x48, 0xA9, 0x02, 0x48, 0xA9, 0x0B, 0x48, 0x60,
    0xA9, 0x41, 0x8D, 0x20, 0x02, 0x60]

namespace returnToItself

lemma ran : (loaded returnToItself).initRun 1 =
    (.ok ⟨9, .idle⟩, ((loaded returnToItself).initRun 1).2) :=
  initRun_of_toOption _ _ _ (by decide +kernel)

/-- Three instructions behind the stop the byte at `$0220` is another. -/
lemma stores : (((loaded returnToItself).initRun 1).2.after 3).bus.fetch 0x0220 ≠
    ((loaded returnToItself).initRun 1).2.bus.fetch 0x0220 := by
  decide +kernel

end returnToItself

/-- **A routine that is taken to idle can have more to do.**  The return leads to itself once, and
the next time to instructions that are never carried out, a store among them. -/
theorem init_idle_law_fails : ¬ ∀ (setup : Setup) (player : Player), player.Reached setup →
    ∀ subtune : UInt16, player.setup.file.checkSubtune subtune = .ok () →
    ∀ (run : RoutineRun) (stopped : Machine BankedMemory),
      player.initRun subtune = (.ok run, stopped) → run.ending = .idle → stopped.Idles := by
  intro law
  have reached : (loaded returnToItself).Reached returnToItself :=
    .load (load_of_fits (by decide))
  have idles := law _ _ reached 1 rfl _ _ returnToItself.ran rfl
  exact returnToItself.stores ((idles.rests 3).bus.fetch 0x0220)

end Player

end SidScore
