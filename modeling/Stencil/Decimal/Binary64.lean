/-!
# Binary64 magnitudes

The magnitude of a double precision number is `mantissa * 2 ^ exponent`. `Binary64.ofRatio` rounds a ratio
of natural numbers to the nearest such value, ties to the even mantissa.
-/

namespace Stencil

/-- The magnitude of a double precision number. -/
inductive Binary64 where
  /-- `mantissa * 2 ^ exponent`, with `mantissa < 2 ^ 53` and `-1074 ≤ exponent ≤ 971`. -/
  | finite (mantissa : Nat) (exponent : Int)
  /-- Beyond the greatest finite value. -/
  | infinite
deriving DecidableEq, Repr

namespace Binary64

/-- The least exponent: that of the subnormal numbers. -/
def minExponent : Int := -1074

/-- The greatest exponent of a finite number. -/
def maxExponent : Int := 971

/-- The least mantissa of 53 bits. -/
def leastMantissa : Nat := 0x10000000000000

/-- A power of two. -/
def twoTo (n : Nat) : Nat := Nat.pow 2 n

/-- A power of ten. -/
def tenTo (n : Nat) : Nat := Nat.pow 10 n

/-- The magnitude zero. -/
def zero : Binary64 := .finite 0 minExponent

/-- `num / (den * 2 ^ e)`, as a quotient with remainder and divisor. -/
def divide (num den : Nat) (e : Int) : Nat × Nat × Nat :=
  let n := num * twoTo (-e).toNat
  let d := den * twoTo e.toNat
  (n / d, n % d, d)

/-- The quotient rounded to nearest, a tie to even. -/
def roundQuotient (quotient remainder divisor : Nat) : Nat :=
  if 2 * remainder < divisor then quotient
  else if 2 * remainder = divisor then quotient + quotient % 2
  else quotient + 1

/-- The exponent at which `num / den` has 53 bits before the point, or the least one. -/
def exponentFor (num den : Nat) : Int :=
  let guess : Int := (num.log2 : Int) - (den.log2 : Int) - 52
  let shifted := if (divide num den guess).1 < leastMantissa then guess - 1 else guess
  if shifted < minExponent then minExponent else shifted

/-- The double nearest to `num / den`. -/
def ofRatio (num den : Nat) : Binary64 :=
  if num = 0 ∨ den = 0 then zero
  else
    let e := exponentFor num den
    let (quotient, remainder, divisor) := divide num den e
    let m := roundQuotient quotient remainder divisor
    let (m, e) := if m = 2 * leastMantissa then (leastMantissa, e + 1) else (m, e)
    if e > maxExponent then .infinite else .finite m e

/-- The double nearest to `digits * 10 ^ exponent`. Exponents far outside the range are settled first. -/
def ofDecimal (digits : Nat) (exponent : Int) : Binary64 :=
  let size : Int := (Nat.toDigits 10 digits).length
  if digits = 0 then zero
  else if size + exponent > 400 then .infinite
  else if size + exponent < -400 then zero
  else ofRatio (digits * tenTo exponent.toNat) (tenTo (-exponent).toNat)

/-! ## Arithmetic -/

/-- The double nearest to a product. -/
def mul : Binary64 → Binary64 → Binary64
  | .finite m e, .finite n f => ofRatio (m * n * twoTo (e + f).toNat) (twoTo (-(e + f)).toNat)
  | _, _ => .infinite

/-- The double nearest to a quotient. -/
def div : Binary64 → Binary64 → Binary64
  | .finite m e, .finite n f => ofRatio (m * twoTo (e - f).toNat) (n * twoTo (f - e).toNat)
  | .finite _ _, .infinite => zero
  | .infinite, _ => .infinite

/-- The exponent of the greatest power of ten that is a double. -/
def greatestTen : Nat := 308

/-- The double nearest to a power of ten. -/
def power (n : Nat) : Binary64 := ofDecimal 1 n

/-- A whole number times a power of ten, in steps that each round to a double: one multiplication or division,
and where the power of ten is below all doubles, a division by the greatest one first. -/
def scaled (significand : Nat) (exponent : Int) : Binary64 :=
  let start := ofRatio significand 1
  if significand = 0 then zero
  else if greatestTen < exponent then .infinite
  else if 0 ≤ exponent then start.mul (power exponent.toNat)
  else if -greatestTen ≤ exponent then start.div (power (-exponent).toNat)
  else if -2 * greatestTen ≤ exponent then
    (start.div (power greatestTen)).div (power (-(exponent + greatestTen)).toNat)
  else zero

/-- The magnitude as a natural number, when it is one. -/
def toNat? : Binary64 → Option Nat
  | .infinite => none
  | .finite m e =>
    if 0 ≤ e then some (m * twoTo e.toNat)
    else if m % twoTo (-e).toNat = 0 then some (m / twoTo (-e).toNat) else none

end Binary64

end Stencil
