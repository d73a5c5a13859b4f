import DeviceBoot.Tooling.Toml.Scan
/-!
# Reading TOML: integers and floats

An integer is decimal (an optional sign, then `0` or digits not starting with `0`), or
hexadecimal, octal or binary after `0x`, `0o` or `0b`; single underscores may stand between
digits. It must fit a 64-bit signed integer.

A float is a decimal integer with a fraction, an exponent or both, or `inf` or `nan` with an
optional sign. Its value is the binary64 value nearest to the decimal it writes. A float whose
value is positive infinity is refused at its first byte; a negative one is kept.

Main definitions: `Toml.readInteger`, `Toml.readFloat`.
-/

namespace DeviceBoot

namespace Toml

/-- The value of decimal digit characters. -/
def digitsValue (ds : List Char) : Nat := ds.foldl (fun acc c => 10 * acc + (c.toNat - 48)) 0

/-- The digits of a text, without underscores. -/
def plainDigits (t : String) : List Char := t.toList.filter (· ≠ '_')

/-- The value of a float literal's text: an optional sign, digits, an optional fraction after
`.` and an optional exponent after `e` or `E`, underscores anywhere among the digits. -/
def floatValue (lit : String) : Binary64 :=
  let negative := lit.startsWith "-"
  let body := (lit.toList.dropWhile fun c => c = '+' ∨ c = '-').filter (· ≠ '_')
  let isMark (c : Char) : Bool := c = 'e' ∨ c = 'E'
  let mant := body.takeWhile (!isMark ·)
  let ex := (body.dropWhile (!isMark ·)).drop 1
  let whole := mant.takeWhile (· ≠ '.')
  let frac := (mant.dropWhile (· ≠ '.')).drop 1
  let exMagnitude : Int := digitsValue (ex.dropWhile fun c => c = '+' ∨ c = '-')
  let exValue := if ex.head? = some '-' then -exMagnitude else exMagnitude
  Binary64.ofDecimal negative (digitsValue (whole ++ frac)) (exValue - frac.length)

variable (s : Array UInt8)

/-- Digits (and single underscores between them) from `i`; an underscore not followed by a digit
fails hard with `message`. -/
def digitRun (isD : UInt8 → Bool) (message : String) (i : Nat) : Step Unit :=
  go (s.size + 1) i
where
  go : Nat → Nat → Step Unit
    | 0, i => .ok ((), i)
    | fuel + 1, i =>
      match s[i]? with
      | some b =>
        if isD b then go fuel (i + 1)
        else if b = 95 then
          if (s[i + 1]?.map isD).getD false then go fuel (i + 2) else hard (i + 1) message
        else .ok ((), i)
      | none => .ok ((), i)

/-- A decimal integer's text at `i`: an optional sign, then `0` or a digit run not starting
with `0`. -/
def decimalInt (i : Nat) : Step Unit :=
  let j := if isAt s i '+' ∨ isAt s i '-' then i + 1 else i
  match s[j]? with
  | some b =>
    if 49 ≤ b ∧ b ≤ 57 then digitRun s isDigit "invalid integer\nexpected digit" (j + 1)
    else if b = 48 then .ok ((), j + 1)
    else soft j "invalid integer"
  | none => soft j "invalid integer"

/-- A float at `i`: a decimal integer with a fraction and/or an exponent, or `inf`/`nan` with an
optional sign. -/
def readFloat (i : Nat) : Step Scalar :=
  match decimalInt s i with
  | .error f => if f.cut then .error f else special
  | .ok ((), j) =>
    let fracEnd : Step (Option Nat) :=
      if isAt s j '.' then
        if (s[j + 1]?.map isDigit).getD false then
          (digitRun s isDigit "invalid floating-point number\nexpected digit, digit" (j + 2)).map
            fun ((), k) => (some k, k)
        else hard (j + 1) "invalid floating-point number\nexpected digit"
      else .ok (none, j)
    match fracEnd with
    | .error f => .error f
    | .ok (frac, k) =>
      let expEnd : Step (Option Nat) :=
        if isAt s k 'e' ∨ isAt s k 'E' then
          let m := if isAt s (k + 1) '+' ∨ isAt s (k + 1) '-' then k + 2 else k + 1
          if (s[m]?.map isDigit).getD false then
            (digitRun s isDigit "invalid floating-point number\nexpected digit" (m + 1)).map
              fun ((), e) => (some e, e)
          else hard m "invalid floating-point number"
        else .ok (none, k)
      match expEnd with
      | .error f => .error f
      | .ok (ex, e) =>
        if frac.isNone ∧ ex.isNone then special else
        match floatValue (slice s i e) with
        | .infinity false => hard i "invalid floating-point number"
        | v => .ok (.float v, e)
where
  special : Step Scalar :=
    let j := if isAt s i '+' ∨ isAt s i '-' then i + 1 else i
    let negative := isAt s i '-'
    if startsWith s j "inf" then .ok (.float (.infinity negative), j + 3)
    else if startsWith s j "nan" then .ok (.float .nan, j + 3)
    else soft j "invalid floating-point number"

/-- The largest 64-bit signed integer. -/
def maxInteger : Int := 9223372036854775807

/-- An integer at `i`: hexadecimal, octal or binary after its prefix, else decimal. -/
def readInteger (i : Nat) : Step Scalar :=
  let radix (prefixLen base : Nat) (isD : UInt8 → Bool) (label : String) : Step Scalar :=
    let j := i + prefixLen
    if !(s[j]?.map isD).getD false then hard j s!"invalid {label}" else
    match digitRun s isD s!"invalid {label}\nexpected digit" (j + 1) with
    | .error f => .error f
    | .ok ((), k) =>
      let v := (plainDigits (slice s j k)).foldl (fun acc c => base * acc + digitValue c.toNat.toUInt8) 0
      if v > maxInteger.toNat then hard i "number too large to fit in target type"
      else .ok (.integer v, k)
  if startsWith s i "0x" then radix 2 16 isHexDigit "hexadecimal integer"
  else if startsWith s i "0o" then radix 2 8 (fun b => 48 ≤ b ∧ b ≤ 55) "octal integer"
  else if startsWith s i "0b" then radix 2 2 (fun b => b = 48 ∨ b = 49) "binary integer"
  else match decimalInt s i with
    | .error f => .error f
    | .ok ((), j) =>
      let t := slice s i j
      let magnitude : Int := digitsValue (plainDigits t |>.filter Char.isDigit)
      let v := if t.startsWith "-" then -magnitude else magnitude
      if v > maxInteger then hard i "number too large to fit in target type"
      else if v < -maxInteger - 1 then hard i "number too small to fit in target type"
      else .ok (.integer v, j)

end Toml

end DeviceBoot
