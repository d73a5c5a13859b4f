import DeviceBoot.Text.Hex
/-!
# Sets of code points as ranges

A character property from the Unicode tables is a sorted list of closed code point ranges. The
tables are written as text, a range a word: `a-b` for the range from `a` to `b` and `a` for a
single code point, both in hex, the words apart by spaces and lines. `CodeRanges.ofLines`
reads such a text; a word that is not hex reads as nothing.

Main definitions: `CodeRanges`, `CodeRanges.ofLines`, `CodeRanges.contains`.
-/

namespace DeviceBoot

/-- Closed ranges of code points. -/
abbrev CodeRanges := Array (Nat × Nat)

namespace CodeRanges

/-- The value of a hex word, if every character of it is a hex digit. -/
def hexValue? (w : String) : Option Nat :=
  if w.isEmpty then none else
  w.toList.foldlM (fun acc c => (Hex.value? c).map fun d => acc * 16 + d) 0

/-- One word of a table: a range or a single code point. -/
def word? (w : String) : Option (Nat × Nat) :=
  match w.splitOn "-" with
  | [a] => (hexValue? a).map fun n => (n, n)
  | [a, b] => do pure (← hexValue? a, ← hexValue? b)
  | _ => none

/-- The ranges a table lists, its text given line by line. -/
def ofLines (lines : List String) : CodeRanges :=
  ((lines.flatMap (·.splitOn " ")).filterMap word?).toArray

/-- Whether a code point lies in one of the ranges. -/
def contains (rs : CodeRanges) (n : Nat) : Bool :=
  rs.any fun r => r.1 ≤ n && n ≤ r.2

end CodeRanges

end DeviceBoot
