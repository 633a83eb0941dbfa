import SidScore.Processor.Mnemonic
import SidScore.Processor.Mode

/-!
# The opcode matrix

Every byte names a row: an instruction, an addressing mode, a base cost in cycles and whether an
indexed access that leaves its page costs one cycle more.  That surcharge belongs to reads alone;
stores and read-modify-write instructions have paid it in their base cost already.

The matrix holds 151 documented instructions, 27 undocumented bytes that only consume their
operands and cycles, 12 that lock the processor up and 66 others that are refused.
-/

namespace SidScore

/-- What is known of an opcode before it runs. -/
structure Opcode where
  /-- The instruction. -/
  mnemonic : Mnemonic
  /-- Where its operand lies. -/
  mode : Mode
  /-- Its cost in cycles, before any surcharge; zero for a byte that cannot run. -/
  cycles : UInt8
  /-- An indexed access on another page than its base costs one cycle more. -/
  pagePenalty : Bool
  deriving Repr, DecidableEq, Inhabited

namespace Opcode

/-- The bytes of the instruction, opcode included. -/
def size (op : Opcode) : UInt8 :=
  1 + op.mode.operandBytes

/-- The processor can run the opcode. -/
def isExecutable (op : Opcode) : Bool :=
  op.mnemonic.isExecutable

/-! ## The rows -/

/-- An opcode whose cost does not depend on pages. -/
def plain (mnemonic : Mnemonic) (mode : Mode) (cycles : UInt8) : Opcode :=
  ⟨mnemonic, mode, cycles, false⟩

/-- A read that pays for leaving its page. -/
def paged (mnemonic : Mnemonic) (mode : Mode) (cycles : UInt8) : Opcode :=
  ⟨mnemonic, mode, cycles, true⟩

/-- An opcode that locks the processor up. -/
def locked : Opcode :=
  ⟨.jam, .implicit, 0, false⟩

/-- An opcode that is refused. -/
def refused : Opcode :=
  ⟨.undocumented, .implicit, 0, false⟩

set_option maxRecDepth 2048 in
/-- The rows of all 256 bytes, sixteen to a block. -/
def matrix : Vector Opcode 256 := #v[
  -- $00
  plain .brk .implicit 7, plain .ora .indirectX 6, locked, refused, plain .nop .zeroPage 3,
  plain .ora .zeroPage 3, plain .asl .zeroPage 5, refused, plain .php .implicit 3,
  plain .ora .immediate 2, plain .asl .accumulator 2, refused, plain .nop .absolute 4,
  plain .ora .absolute 4, plain .asl .absolute 6, refused,
  -- $10
  plain .bpl .relative 2, paged .ora .indirectY 5, locked, refused, plain .nop .zeroPageX 4,
  plain .ora .zeroPageX 4, plain .asl .zeroPageX 6, refused, plain .clc .implicit 2,
  paged .ora .absoluteY 4, plain .nop .implicit 2, refused, paged .nop .absoluteX 4,
  paged .ora .absoluteX 4, plain .asl .absoluteX 7, refused,
  -- $20
  plain .jsr .absolute 6, plain .and .indirectX 6, locked, refused, plain .bit .zeroPage 3,
  plain .and .zeroPage 3, plain .rol .zeroPage 5, refused, plain .plp .implicit 4,
  plain .and .immediate 2, plain .rol .accumulator 2, refused, plain .bit .absolute 4,
  plain .and .absolute 4, plain .rol .absolute 6, refused,
  -- $30
  plain .bmi .relative 2, paged .and .indirectY 5, locked, refused, plain .nop .zeroPageX 4,
  plain .and .zeroPageX 4, plain .rol .zeroPageX 6, refused, plain .sec .implicit 2,
  paged .and .absoluteY 4, plain .nop .implicit 2, refused, paged .nop .absoluteX 4,
  paged .and .absoluteX 4, plain .rol .absoluteX 7, refused,
  -- $40
  plain .rti .implicit 6, plain .eor .indirectX 6, locked, refused, plain .nop .zeroPage 3,
  plain .eor .zeroPage 3, plain .lsr .zeroPage 5, refused, plain .pha .implicit 3,
  plain .eor .immediate 2, plain .lsr .accumulator 2, refused, plain .jmp .absolute 3,
  plain .eor .absolute 4, plain .lsr .absolute 6, refused,
  -- $50
  plain .bvc .relative 2, paged .eor .indirectY 5, locked, refused, plain .nop .zeroPageX 4,
  plain .eor .zeroPageX 4, plain .lsr .zeroPageX 6, refused, plain .cli .implicit 2,
  paged .eor .absoluteY 4, plain .nop .implicit 2, refused, paged .nop .absoluteX 4,
  paged .eor .absoluteX 4, plain .lsr .absoluteX 7, refused,
  -- $60
  plain .rts .implicit 6, plain .adc .indirectX 6, locked, refused, plain .nop .zeroPage 3,
  plain .adc .zeroPage 3, plain .ror .zeroPage 5, refused, plain .pla .implicit 4,
  plain .adc .immediate 2, plain .ror .accumulator 2, refused, plain .jmp .indirect 5,
  plain .adc .absolute 4, plain .ror .absolute 6, refused,
  -- $70
  plain .bvs .relative 2, paged .adc .indirectY 5, locked, refused, plain .nop .zeroPageX 4,
  plain .adc .zeroPageX 4, plain .ror .zeroPageX 6, refused, plain .sei .implicit 2,
  paged .adc .absoluteY 4, plain .nop .implicit 2, refused, paged .nop .absoluteX 4,
  paged .adc .absoluteX 4, plain .ror .absoluteX 7, refused,
  -- $80
  plain .nop .immediate 2, plain .sta .indirectX 6, plain .nop .immediate 2, refused,
  plain .sty .zeroPage 3, plain .sta .zeroPage 3, plain .stx .zeroPage 3, refused,
  plain .dey .implicit 2, plain .nop .immediate 2, plain .txa .implicit 2, refused,
  plain .sty .absolute 4, plain .sta .absolute 4, plain .stx .absolute 4, refused,
  -- $90
  plain .bcc .relative 2, plain .sta .indirectY 6, locked, refused, plain .sty .zeroPageX 4,
  plain .sta .zeroPageX 4, plain .stx .zeroPageY 4, refused, plain .tya .implicit 2,
  plain .sta .absoluteY 5, plain .txs .implicit 2, refused, refused, plain .sta .absoluteX 5,
  refused, refused,
  -- $A0
  plain .ldy .immediate 2, plain .lda .indirectX 6, plain .ldx .immediate 2, refused,
  plain .ldy .zeroPage 3, plain .lda .zeroPage 3, plain .ldx .zeroPage 3, refused,
  plain .tay .implicit 2, plain .lda .immediate 2, plain .tax .implicit 2, refused,
  plain .ldy .absolute 4, plain .lda .absolute 4, plain .ldx .absolute 4, refused,
  -- $B0
  plain .bcs .relative 2, paged .lda .indirectY 5, locked, refused, plain .ldy .zeroPageX 4,
  plain .lda .zeroPageX 4, plain .ldx .zeroPageY 4, refused, plain .clv .implicit 2,
  paged .lda .absoluteY 4, plain .tsx .implicit 2, refused, paged .ldy .absoluteX 4,
  paged .lda .absoluteX 4, paged .ldx .absoluteY 4, refused,
  -- $C0
  plain .cpy .immediate 2, plain .cmp .indirectX 6, plain .nop .immediate 2, refused,
  plain .cpy .zeroPage 3, plain .cmp .zeroPage 3, plain .dec .zeroPage 5, refused,
  plain .iny .implicit 2, plain .cmp .immediate 2, plain .dex .implicit 2, refused,
  plain .cpy .absolute 4, plain .cmp .absolute 4, plain .dec .absolute 6, refused,
  -- $D0
  plain .bne .relative 2, paged .cmp .indirectY 5, locked, refused, plain .nop .zeroPageX 4,
  plain .cmp .zeroPageX 4, plain .dec .zeroPageX 6, refused, plain .cld .implicit 2,
  paged .cmp .absoluteY 4, plain .nop .implicit 2, refused, paged .nop .absoluteX 4,
  paged .cmp .absoluteX 4, plain .dec .absoluteX 7, refused,
  -- $E0
  plain .cpx .immediate 2, plain .sbc .indirectX 6, plain .nop .immediate 2, refused,
  plain .cpx .zeroPage 3, plain .sbc .zeroPage 3, plain .inc .zeroPage 5, refused,
  plain .inx .implicit 2, plain .sbc .immediate 2, plain .nop .implicit 2, refused,
  plain .cpx .absolute 4, plain .sbc .absolute 4, plain .inc .absolute 6, refused,
  -- $F0
  plain .beq .relative 2, paged .sbc .indirectY 5, locked, refused, plain .nop .zeroPageX 4,
  plain .sbc .zeroPageX 4, plain .inc .zeroPageX 6, refused, plain .sed .implicit 2,
  paged .sbc .absoluteY 4, plain .nop .implicit 2, refused, paged .nop .absoluteX 4,
  paged .sbc .absoluteX 4, plain .inc .absoluteX 7, refused]

/-- The row of a byte. -/
def decode (code : UInt8) : Opcode :=
  matrix.get ⟨code.toNat, code.toNat_lt⟩

end Opcode

end SidScore
