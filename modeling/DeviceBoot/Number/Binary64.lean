/-!
# Binary64 values and reading decimals into them

A binary64 value is finite, an infinity or NaN. A finite value is a sign and a magnitude
`m · 2^e` with `m < 2^53` and `e ≥ -1074`, normalised so that `m ≥ 2^52` unless `e = -1074`
(a subnormal, or zero). Every finite magnitude is then a whole multiple of `2^-1074`, which
keeps all the arithmetic here exact and in `Nat`.

`Binary64.ofDecimal` reads `d · 10^x` to the nearest value, a tie going to the even significand,
and to an infinity when the magnitude passes the largest finite one by half a unit or more.

Main definitions: `Binary64`, `Binary64.ofDecimal`.
-/

namespace DeviceBoot

/-- A binary64 floating-point value. -/
inductive Binary64 where
  /-- `±m · 2^e`. -/
  | finite (negative : Bool) (significand : Nat) (exponent : Int)
  | infinity (negative : Bool)
  | nan
  deriving DecidableEq, Repr

namespace Binary64

/-- The exponent of the smallest subnormal. -/
def minExponent : Int := -1074

/-- The exponent of the largest finite values, whose significands have 53 bits. -/
def maxExponent : Int := 971

/-- Zero with a sign. -/
def zero (negative : Bool) : Binary64 := .finite negative 0 minExponent

/-- The floor of the base-2 logarithm of `num / den`, both positive. The quotient lies strictly
between `2^(g-1)` and `2^(g+1)` for `g` the difference of the bit lengths, so one comparison
settles it. -/
def log2Floor (num den : Nat) : Int :=
  let g : Int := (Nat.log2 num : Int) - Nat.log2 den
  if num * Nat.pow 2 (-g).toNat ≥ den * Nat.pow 2 g.toNat then g else g - 1

/-- `num / (den · 2^e)` as a quotient, a remainder and the divisor they are over. -/
def divPow2 (num den : Nat) (e : Int) : Nat × Nat × Nat :=
  let n := num * Nat.pow 2 (-e).toNat
  let d := den * Nat.pow 2 e.toNat
  (n / d, n % d, d)

/-- The value nearest to `num / den` (both positive): 53 bits below the leading one, or down to
`2^-1074`; half a unit goes to the even significand, and past the finite range is infinity. -/
def nearest (negative : Bool) (num den : Nat) : Binary64 :=
  let e := max minExponent (log2Floor num den - 52)
  let (q, r, d) := divPow2 num den e
  let q := if 2 * r > d ∨ (2 * r = d ∧ q % 2 = 1) then q + 1 else q
  let (q, e) := if q = Nat.pow 2 53 then (Nat.pow 2 52, e + 1) else (q, e)
  if e > maxExponent then .infinity negative else .finite negative q e

/-- The number of decimal digits of `n`. -/
def decimalWidth (n : Nat) : Nat := (Nat.toDigits 10 n).length

/-- The value nearest to `±digits · 10^exp10`. A magnitude of at least `10^310` is past the
finite range and one below `10^-331` is below half the smallest subnormal, so neither needs the
exact arithmetic. -/
def ofDecimal (negative : Bool) (digits : Nat) (exp10 : Int) : Binary64 :=
  if digits = 0 then zero negative else
  let top : Int := decimalWidth digits + exp10
  if top > 310 then .infinity negative
  else if top < -330 then zero negative
  else nearest negative (digits * Nat.pow 10 exp10.toNat) (Nat.pow 10 (-exp10).toNat)

end Binary64

end DeviceBoot
