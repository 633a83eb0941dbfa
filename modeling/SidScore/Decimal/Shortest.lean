import SidScore.Decimal.Basic

/-!
# The shortest decimal that reads back

Around each float lies the interval of reals that round to it; its ends belong to it exactly when
the significand is even.  The decimals with a fixed number of places form a grid, and among the
points of a grid only the two neighbours of the float can be the nearest in the interval.  So the
grids are tried from the coarsest to finer ones, and the first that has a point in the interval
gives the fewest digits.  Of two neighbours in the interval the nearer is taken, and the upper one
if both are equally near.

Everything is counted in quarters of the float's last binary place, in which the interval's ends
are whole numbers.
-/

namespace SidScore.Decimal

/-- The reals that round to one float, in units of `2 ^ exponent`. -/
structure RoundingInterval where
  /-- The lower end. -/
  low : Nat
  /-- The float itself. -/
  value : Nat
  /-- The upper end. -/
  high : Nat
  /-- The ends belong to the interval. -/
  closed : Bool
  /-- The power of two that scales all three. -/
  exponent : Int
  deriving Repr, DecidableEq, Inhabited

/-- The interval of `significand * 2 ^ exponent`.  Below a power of two the floats lie twice as
dense, except at the lowest exponent. -/
def RoundingInterval.of (significand : Nat) (exponent : Int) : RoundingInterval where
  low :=
    if significand = hiddenBit ∧ lowestExponent < exponent then 4 * significand - 1
    else 4 * significand - 2
  value := 4 * significand
  high := 4 * significand + 2
  closed := significand % 2 == 0
  exponent := exponent - 2

/-- The point of the grid of multiples of `10 ^ place` that lies in the interval and nearest to the
float, as a multiple, if there is one. -/
def RoundingInterval.nearest? (i : RoundingInterval) (place : Int) : Option Nat :=
  let unit := Nat.pow 10 (-place).toNat <<< i.exponent.toNat
  let step := Nat.pow 10 place.toNat <<< (-i.exponent).toNat
  let inside (c : Nat) : Bool :=
    if i.closed then i.low * unit ≤ c * step && c * step ≤ i.high * unit
    else i.low * unit < c * step && c * step < i.high * unit
  let below := i.value * unit / step
  let above := below + 1
  match inside below, inside above with
  | true, true =>
    if i.value * unit - below * step < above * step - i.value * unit then some below
    else some above
  | true, false => some below
  | false, true => some above
  | false, false => none

/-- Tries the grids from `10 ^ place` downward. -/
def RoundingInterval.search (i : RoundingInterval) (place : Int) : Nat → Nat × Int
  | 0 => (0, 0)
  | fuel + 1 =>
    match i.nearest? place with
    | some digits => (digits, place)
    | none => i.search (place - 1) fuel

/-- The shortest digits of `significand * 2 ^ exponent` and their power of ten.  No float reaches
`10 ^ 309`, and all are multiples of `10 ^ -1074`. -/
def shortestDigits (significand : Nat) (exponent : Int) : Nat × Int :=
  if significand = 0 then (0, 0)
  else (RoundingInterval.of significand exponent).search 309 1384

/-- The shortest text that reads back as the float, without an exponent mark and without a point in
whole numbers. -/
def shortest (x : Float) : String :=
  textOf (fun significand exponent =>
    let (digits, place) := shortestDigits significand exponent
    positional digits place) (read x)

end SidScore.Decimal
