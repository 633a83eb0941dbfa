/-!
# The memory configuration

Addresses `$0000` and `$0001` are not memory but two registers inside the processor: one sets the
direction of its lines, the other controls them.  The three low bits of the control byte select
what `$A000`–`$BFFF`, `$D000`–`$DFFF` and `$E000`–`$FFFF` show.

| low bits | `$A000` | `$D000`       | `$E000` |
|----------|---------|---------------|---------|
| 0, 4     | RAM     | RAM           | RAM     |
| 1        | RAM     | character ROM | RAM     |
| 2        | RAM     | character ROM | KERNAL  |
| 3        | BASIC   | character ROM | KERNAL  |
| 5        | RAM     | registers     | RAM     |
| 6        | RAM     | registers     | KERNAL  |
| 7        | BASIC   | registers     | KERNAL  |
-/

namespace SidScore

/-- What shows in the three areas that can be switched. -/
structure BankState where
  /-- BASIC shows at `$A000`–`$BFFF`. -/
  basic : Bool
  /-- The KERNAL shows at `$E000`–`$FFFF`. -/
  kernal : Bool
  /-- The chips' registers show at `$D000`–`$DFFF`. -/
  io : Bool
  /-- The character ROM shows at `$D000`–`$DFFF`. -/
  charRom : Bool
  deriving Repr, DecidableEq, Inhabited

/-- The configuration that the low bits of a control byte select. -/
def BankState.ofControl (control : UInt8) : BankState :=
  let low := control &&& 0x07
  { basic := low &&& 0x03 == 0x03
    kernal := low &&& 0x02 != 0
    io := 5 ≤ low
    charRom := 1 ≤ low && low ≤ 3 }

/-- The two registers inside the processor. -/
structure Banking where
  /-- The direction register, which is stored and has no effect. -/
  direction : UInt8
  /-- The control register, whose low bits select the configuration. -/
  control : UInt8
  deriving Repr, DecidableEq, Inhabited

namespace Banking

/-- The registers after power-on: everything but plain memory shows. -/
def powerOn : Banking := ⟨0x2F, 0x37⟩

/-- The configuration that the control byte selects. -/
def state (banking : Banking) : BankState :=
  .ofControl banking.control

/-- The control byte that lets the registers show.  It keeps the choice of BASIC and KERNAL where
the table has such a row, and else shows the registers alone. -/
def controlShowingIo (banking : Banking) : UInt8 :=
  if banking.state.io then banking.control
  else
    let control := banking.control ||| 0x04
    if control &&& 0x03 == 0 then control ||| 0x01 else control

end Banking

end SidScore
