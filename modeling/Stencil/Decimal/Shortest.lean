import Stencil.Decimal.Binary64
/-!
# Shortest decimals

`Decimal.shortest` gives the decimal of fewest digits that rounds to a given double, and of those the one
nearest to it. For one digit, two, and so on up to seventeen, the two neighbours of the value on the grid of
that many digits are tested against the interval of numbers that round to it.
-/

namespace Stencil

/-- The number `digits * 10 ^ exponent`. -/
structure Decimal where
  digits : Nat
  exponent : Int
deriving DecidableEq, Repr

namespace Decimal

/-- The numbers that round to `mantissa * 2 ^ exponent`, in quarters of a unit in the last place. -/
structure Interval where
  lower : Nat
  value : Nat
  upper : Nat
  /-- The power of two that a quarter stands for. -/
  scale : Int
  /-- Whether the ends belong to it. -/
  closed : Bool
deriving Repr

/-- The interval around a positive magnitude. Below a power of two the gap is half as wide. -/
def Interval.around (mantissa : Nat) (exponent : Int) : Interval where
  lower :=
    if mantissa = Binary64.leastMantissa ∧ exponent > Binary64.minExponent then 4 * mantissa - 1
    else 4 * mantissa - 2
  value := 4 * mantissa
  upper := 4 * mantissa + 2
  scale := exponent - 2
  closed := mantissa % 2 = 0

/-- `quarters * 2 ^ scale` and `digits * 10 ^ exponent` brought to a common denominator. -/
def align (quarters : Nat) (scale : Int) (digits : Nat) (exponent : Int) : Nat × Nat :=
  (quarters * Binary64.twoTo scale.toNat * Binary64.tenTo (-exponent).toNat,
   digits * Binary64.tenTo exponent.toNat * Binary64.twoTo (-scale).toNat)

/-- Whether a decimal lies in the interval. -/
def Interval.holds (i : Interval) (d : Decimal) : Bool :=
  let (lower, x) := align i.lower i.scale d.digits d.exponent
  let (upper, y) := align i.upper i.scale d.digits d.exponent
  if i.closed then lower ≤ x && y ≤ upper else lower < x && y < upper

/-- The greatest multiple of `10 ^ exponent` not above the value, in units of that power. -/
def Interval.floorOn (i : Interval) (exponent : Int) : Nat :=
  let (value, unit) := align i.value i.scale 1 exponent
  value / unit

/-- How far a decimal is from the value, at the common denominator of its exponent. -/
def Interval.distance (i : Interval) (d : Decimal) : Nat :=
  let (value, x) := align i.value i.scale d.digits d.exponent
  (value - x) + (x - value)

/-- The candidate with `count` digits: the nearer neighbour that lies in the interval. -/
def Interval.candidate? (i : Interval) (exponent : Int) : Option Decimal :=
  let below : Decimal := ⟨i.floorOn exponent, exponent⟩
  let above : Decimal := ⟨i.floorOn exponent + 1, exponent⟩
  match i.holds below && below.digits != 0, i.holds above with
  | true, true =>
    if i.distance below < i.distance above then some below
    else if i.distance above < i.distance below then some above
    else if below.digits % 2 = 0 then some below else some above
  | true, false => some below
  | false, true => some above
  | false, false => none

/-- The power of ten just above the value: the least `p ≥ from` with `value < 10 ^ p`. -/
def Interval.magnitude (i : Interval) : Nat → Int → Int
  | 0, p => p
  | steps + 1, p => if i.floorOn p = 0 then p else i.magnitude steps (p + 1)

/-- Tries ever finer grids below `10 ^ top`. -/
def Interval.search (i : Interval) (top : Int) : Nat → Nat → Decimal
  | 0, count => ⟨i.floorOn (top - count), top - count⟩
  | steps + 1, count =>
    match i.candidate? (top - count) with
    | some d => d
    | none => i.search top steps (count + 1)

/-- A bound below the power of ten of a magnitude, from the binary size of it. -/
def lowerPower (mantissa : Nat) (exponent : Int) : Int :=
  let bits : Int := mantissa.log2 + exponent
  if bits ≥ 0 then bits * 3 / 10 else bits * 302 / 1000 - 1

/-- Trailing zeros of the digits moved into the exponent. -/
def normalize : Nat → Decimal → Decimal
  | 0, d => d
  | steps + 1, d =>
    if d.digits ≠ 0 ∧ d.digits % 10 = 0 then normalize steps ⟨d.digits / 10, d.exponent + 1⟩ else d

/-- The shortest decimal that rounds to a finite magnitude. -/
def shortest (mantissa : Nat) (exponent : Int) : Decimal :=
  if mantissa = 0 then ⟨0, 0⟩
  else
    let i := Interval.around mantissa exponent
    let top := i.magnitude 40 (lowerPower mantissa exponent)
    normalize 20 (i.search top 17 1)

/-! ## Layout -/

/-- The decimal digits of a natural number. -/
def digitChars (n : Nat) : List Char := Nat.toDigits 10 n

/-- The exponent of scientific notation: one digit before the point. -/
def scientificExponent (d : Decimal) : Int :=
  (digitChars d.digits).length - 1 + d.exponent

/-- The digits written without an exponent; `whole` ends a whole number. -/
def positional (d : Decimal) (whole : String) : String :=
  let ds := digitChars d.digits
  if 0 ≤ d.exponent then String.ofList (ds ++ List.replicate d.exponent.toNat '0') ++ whole
  else
    let places := (-d.exponent).toNat
    if places < ds.length then
      String.ofList (ds.take (ds.length - places)) ++ "." ++ String.ofList (ds.drop (ds.length - places))
    else "0." ++ String.ofList (List.replicate (places - ds.length) '0' ++ ds)

/-- The digits with one before the point and an exponent mark. -/
def scientific (d : Decimal) : String :=
  let ds := digitChars d.digits
  let fraction := ds.drop 1
  let exponent := d.scientificExponent
  let mark := if exponent < 0 then "e-" else "e"
  String.ofList (ds.take 1) ++ (if fraction.isEmpty then "" else "." ++ String.ofList fraction) ++ mark ++
    toString exponent.natAbs

end Decimal

end Stencil
