import DeviceBoot.Tooling.Toml.Number
/-!
# Reading TOML: date-times, and values that start like numbers

A date-time is a date `yyyy-mm-dd`, optionally followed by `T`, `t` or a space and a time
`hh:mm:ss` with an optional fraction of a second and an optional offset (`Z`, `z` or
`+hh:mm`/`-hh:mm`); or a time alone. Every field has exactly its number of digits, and its value
must lie in its range: month 1 to 12, day 1 to the month's length (February has 29 days in a leap
year), hour 0 to 23, minute 0 to 59, second 0 to 60.

How far a date-time commits decides how a fault is reported. Up to the `-` after the year, and
up to the `:` after the hour of a time, nothing is committed, so another reading is tried (an
hour of `24` reads as the integer `24`). After that a fault is reported at the field, as
`invalid date-time` (or `invalid time` for a time alone, `invalid time offset` in an offset),
with `value is out of range` when the digits are there but the value is not. A time that does
not follow a date leaves the date alone, and a `.` without digits ends the time before it.

A value that starts with a sign or a digit is tried as a date-time, then as a float, then as
an integer.

Main definitions: `Toml.readDatetime`, `Toml.readNumber`.
-/

namespace DeviceBoot

namespace Toml

/-- Whether `year` is a leap year. -/
def isLeapYear (year : Nat) : Bool := year % 4 = 0 ∧ (year % 100 ≠ 0 ∨ year % 400 = 0)

/-- The number of days of a month. -/
def daysInMonth (year month : Nat) : Nat :=
  if month = 2 then (if isLeapYear year then 29 else 28)
  else if month = 4 ∨ month = 6 ∨ month = 9 ∨ month = 11 then 30
  else 31

/-- The message of a field whose digits are there but whose value is out of range. -/
def outOfRange (label : String) : String := s!"invalid {label}\nvalue is out of range"

variable (s : Array UInt8)

/-- The value of exactly `n` digits at `i`, if they are there. -/
def digitsAt (i n : Nat) : Option Nat :=
  if (List.range n).all fun k => (s[i + k]?.map isDigit).getD false then
    some ((List.range n).foldl (fun acc k => 10 * acc + ((s.getD (i + k) 0).toNat - 48)) 0)
  else none

/-- A field of `n` digits at `i` with a value from `lo` to `hi`; a fault is soft, at `i`. -/
def readField (label : String) (i n lo hi : Nat) : Step Nat :=
  match digitsAt s i n with
  | none => soft i s!"invalid {label}"
  | some v => if lo ≤ v ∧ v ≤ hi then .ok (v, i + n) else soft i (outOfRange label)

/-- The byte `c` at `i`, else a soft fault there. -/
def readByte (label : String) (c : Char) (i : Nat) : Step Unit :=
  if isAt s i c then .ok ((), i + 1) else soft i s!"invalid {label}"

/-- A date `yyyy-mm-dd` at `i`; committed once the `-` after the year is read. -/
def readDate (i : Nat) : Step Unit :=
  let label := "date-time"
  match digitsAt s i 4 with
  | none => soft i s!"invalid {label}"
  | some year =>
    if !isAt s (i + 4) '-' then soft (i + 4) s!"invalid {label}" else
    harden (show Except Failure (Unit × Nat) from do
      let (month, j) ← readField s label (i + 5) 2 1 12
      let ((), k) ← readByte s label '-' j
      let (day, e) ← readField s label k 2 1 31
      if day > daysInMonth year month then soft k (outOfRange label) else pure ((), e))

/-- A time `hh:mm:ss[.digits]` at `i`; committed once the `:` after the hour is read. -/
def readTime (label : String) (i : Nat) : Step Unit := show Except Failure (Unit × Nat) from do
  let (_, j) ← readField s label i 2 0 23
  let ((), k) ← readByte s label ':' j
  harden (show Except Failure (Unit × Nat) from do
    let (_, l) ← readField s label k 2 0 59
    let ((), m) ← readByte s label ':' l
    let (_, e) ← readField s label m 2 0 60
    if isAt s e '.' ∧ (s[e + 1]?.map isDigit).getD false then pure ((), skipWhile s isDigit (e + 1))
    else pure ((), e))

/-- A time offset at `i`, if there is one: `Z`, `z`, or a sign and `hh:mm`, committed after the
sign. -/
def readOffset (i : Nat) : Step Unit :=
  let label := "time offset"
  if isAt s i 'Z' ∨ isAt s i 'z' then .ok ((), i + 1)
  else if isAt s i '+' ∨ isAt s i '-' then
    harden (show Except Failure (Unit × Nat) from do
      let (_, j) ← readField s label (i + 1) 2 0 23
      let ((), k) ← readByte s label ':' j
      let (_, e) ← readField s label k 2 0 59
      pure ((), e))
  else .ok ((), i)

/-- A date-time at `i`: a date with an optional time and offset, or a time alone. -/
def readDatetime (i : Nat) : Step Scalar :=
  let found (e : Nat) : Step Scalar := .ok (.datetime (slice s i e), e)
  match readDate s i with
  | .ok ((), d) =>
    if isAt s d 'T' ∨ isAt s d 't' ∨ isAt s d ' ' then
      match readTime s "date-time" (d + 1) with
      | .ok ((), t) =>
        match readOffset s t with
        | .ok ((), o) => found o
        | .error f => .error f
      | .error f => if f.cut then .error f else found d
    else found d
  | .error f =>
    if f.cut then .error f else
    match readTime s "time" i with
    | .ok ((), e) => found e
    | .error f => .error f

/-- A value starting with a sign or a digit: a date-time, else a float, else an integer. -/
def readNumber (i : Nat) : Step Scalar :=
  match readDatetime s i with
  | .ok r => .ok r
  | .error f =>
    if f.cut then .error f else
    match readFloat s i with
    | .ok r => .ok r
    | .error f => if f.cut then .error f else readInteger s i

end Toml

end DeviceBoot
