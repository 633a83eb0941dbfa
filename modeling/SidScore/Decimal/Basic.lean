/-!
# Decimal text of floats

A finite float is a whole number times a power of two.  Decimal text is computed from that pair in
exact arithmetic, never by calculating with floats.
-/

namespace SidScore.Decimal

/-! ## The exact value of a float -/

/-- What a float stands for. -/
inductive Reading where
  /-- No number. -/
  | nan
  /-- Beyond all numbers. -/
  | infinite (negative : Bool)
  /-- `significand * 2 ^ exponent`, or its negative. -/
  | finite (negative : Bool) (significand : Nat) (exponent : Int)
  deriving Repr, DecidableEq, Inhabited

/-- The significand of the smallest normal float at each exponent. -/
def hiddenBit : Nat := 1 <<< 52

/-- The exponent at which the floats nearest to zero lie. -/
def lowestExponent : Int := -1074

/-- Reads a float off its bits: a sign, eleven bits of exponent, fifty-two of significand. -/
def read (x : Float) : Reading :=
  let bits : Nat := x.toBits.toNat
  let negative := bits >>> 63 == 1
  let biased : Nat := bits >>> 52 % 1 <<< 11
  let fraction : Nat := bits % hiddenBit
  if biased = 2047 then
    if fraction = 0 then .infinite negative else .nan
  else if biased = 0 then .finite negative fraction lowestExponent
  else .finite negative (hiddenBit + fraction) (lowestExponent + ((biased - 1 : Nat) : Int))

/-- A minus sign for what is negative. -/
def sign (negative : Bool) : String :=
  if negative then "-" else ""

/-- The text of what is no finite number, and of a finite one as given. -/
def textOf (finite : Nat → Int → String) : Reading → String
  | .nan => "NaN"
  | .infinite negative => sign negative ++ "inf"
  | .finite negative significand exponent => sign negative ++ finite significand exponent

/-! ## Digits and a point

The positional text of `digits * 10 ^ exponent`: zeros are appended to a whole number and put in
front of a small one, and there is no exponent mark however large or small the number is.
-/

/-- The text of a whole number with `places` digits behind the point, at least one before it. -/
def withPlaces (n places : Nat) : String :=
  if places = 0 then toString n
  else
    let fraction := toString (n % Nat.pow 10 places)
    let zeros := String.ofList (List.replicate (places - fraction.length) '0')
    toString (n / Nat.pow 10 places) ++ "." ++ zeros ++ fraction

/-- The text of `digits * 10 ^ exponent`. -/
def positional (digits : Nat) (exponent : Int) : String :=
  if 0 ≤ exponent then toString (digits * Nat.pow 10 exponent.toNat)
  else withPlaces digits exponent.natAbs

/-! ## A fixed number of places

The exact value of the float, rounded to the nearest number with the given places; a value halfway
between two of them goes to the even one.
-/

/-- The whole number nearest to `n / d`, the even one of two equally near. -/
def roundDiv (n d : Nat) : Nat :=
  let below := n / d
  let rest := n % d
  if 2 * rest < d then below
  else if d < 2 * rest then below + 1
  else below + below % 2

/-- The text of the float with the given number of places. -/
def fixed (places : Nat) (x : Float) : String :=
  textOf (fun significand exponent =>
    withPlaces
      (roundDiv ((significand * Nat.pow 10 places) <<< exponent.toNat) (1 <<< (-exponent).toNat))
      places)
    (read x)

end SidScore.Decimal
