import DeviceBoot.Number.Binary64
/-!
# The shortest decimal of a binary64 value

A finite nonzero value `m · 2^e` is what every real number in its rounding interval reads as:
the interval reaches half a unit `2^(e-1)` above it and half a unit below it, or a quarter unit
below when `m = 2^52` above the smallest exponent (the next value down is nearer there). Both ends
belong to the interval when `m` is even, as a tie there rounds to `m`.

`Binary64.shortest` finds the fewest significant digits that land in the interval: for `k`
digits it tries the two neighbours of the value on the grid of `k`-digit decimals, the first
`k` with a hit wins, of two hits the nearer one, and of two equally near ones the larger.
Seventeen digits always hit.

`Binary64.positional` writes those digits in positional notation, never with an exponent:
`0.1`, `1`, `123456789012345680000000000000`; infinities are `inf` and `-inf`, NaN is `NaN`,
and the sign of a negative zero is kept.

Main definitions: `Binary64.shortest`, `Binary64.positional`.
-/

namespace DeviceBoot

namespace Binary64

/-- The floor of the base-10 logarithm of `num / den`, both positive. The quotient lies strictly
between `10^(g-1)` and `10^(g+1)` for `g` the difference of the digit counts, so one comparison
settles it. -/
def log10Floor (num den : Nat) : Int :=
  let g : Int := (decimalWidth num : Int) - decimalWidth den
  if num * Nat.pow 10 (-g).toNat ≥ den * Nat.pow 10 g.toNat then g else g - 1

/-- A decimal `c · 10^p` without the zeros at the end of `c`. -/
def trimZeros : Nat → Nat → Int → Nat × Int
  | 0, c, p => (c, p)
  | fuel + 1, c, p => if c ≠ 0 ∧ c % 10 = 0 then trimZeros fuel (c / 10) (p + 1) else (c, p)

/-- The rounding interval of the finite nonzero `m · 2^e`, in units of `2^(e-2)`: its low end,
the value, its high end, and whether the ends belong to it. -/
def interval (m : Nat) (e : Int) : Nat × Nat × Nat × Bool :=
  let v := 4 * m
  let lo := if m = Nat.pow 2 52 ∧ e > minExponent then v - 1 else v - 2
  (lo, v, v + 2, m % 2 = 0)

/-- The shortest decimal `c · 10^p` in the rounding interval of the finite nonzero `m · 2^e`,
with `c` free of zeros at its end. -/
def shortest (m : Nat) (e : Int) : Nat × Int :=
  let (lo, v, hi, inclusive) := interval m e
  -- a unit `2^(e-2)` is `unitNum / unitDen`
  let unitNum := Nat.pow 2 (e - 2).toNat
  let unitDen := Nat.pow 2 (2 - e).toNat
  -- how `c · 10^p` compares with `x` units
  let cmp (c : Nat) (p : Int) (x : Nat) : Ordering :=
    compare (c * Nat.pow 10 p.toNat * unitDen) (x * unitNum * Nat.pow 10 (-p).toNat)
  let n := log10Floor (v * unitNum) unitDen
  let candidate (k : Nat) : Option (Nat × Int) :=
    let p := n + 1 - k
    let c := v * unitNum * Nat.pow 10 (-p).toNat / (unitDen * Nat.pow 10 p.toNat)
    let lowOk := match cmp c p lo with
      | .gt => true
      | .eq => inclusive
      | .lt => false
    let highOk := match cmp (c + 1) p hi with
      | .lt => true
      | .eq => inclusive
      | .gt => false
    if lowOk && highOk then
      if cmp (2 * c + 1) p (2 * v) == .gt then some (c, p) else some (c + 1, p)
    else if lowOk then some (c, p)
    else if highOk then some (c + 1, p)
    else none
  let fallback := n + 1 - 17
  let (c, p) := ((List.range 17).findSome? fun k => candidate (k + 1)).getD
    (v * unitNum * Nat.pow 10 (-fallback).toNat / (unitDen * Nat.pow 10 fallback.toNat), fallback)
  trimZeros (decimalWidth c) c p

/-- The digits `ds` of `ds · 10^p` placed around a decimal point, without an exponent. -/
def place (ds : List Char) (p : Int) : String :=
  if p ≥ 0 then String.ofList (ds ++ List.replicate p.toNat '0')
  else
    let point : Int := ds.length + p
    if point > 0 then String.ofList (ds.take point.toNat) ++ "." ++ String.ofList (ds.drop point.toNat)
    else "0." ++ String.ofList (List.replicate (-point).toNat '0' ++ ds)

/-- A value in positional notation with the fewest digits that read back. -/
def positional : Binary64 → String
  | .nan => "NaN"
  | .infinity negative => (if negative then "-" else "") ++ "inf"
  | .finite negative m e =>
    (if negative then "-" else "") ++
      if m = 0 then "0" else
      let (c, p) := shortest m e
      place (Nat.toDigits 10 c) p

end Binary64

end DeviceBoot
