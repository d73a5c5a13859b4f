import DeviceBoot.Text.Hex
import DeviceBoot.Number.Binary64
/-!
# Reading TOML: steps and strings

The build tool reads its settings from a TOML file. Reading works on the file's UTF-8 bytes with
byte offsets. A step either succeeds with a value and the offset after it, or fails at an offset
with a message. A failure is *soft* when an enclosing rule may still try something else, and
*hard* when reading stops there (`Failure.cut`).

This module holds the steps, the scalar values, the bytes' classes, blank space and comments,
and the strings: basic and literal, one-line and multi-line, with escapes. Numbers and date-times
are read in `Toml.Number` and `Toml.DateTime`.

Main definitions: `Toml.Failure`, `Toml.Step`, `Toml.Scalar`, `Toml.readString`.
-/

namespace DeviceBoot

namespace Toml

/-- A byte range of the file. -/
abbrev Span := Nat × Nat

/-- Why reading stopped: where, the message, and whether enclosing rules may try something else. -/
structure Failure where
  pos : Nat
  message : String
  cut : Bool
  deriving DecidableEq, Repr

/-- A reading step: the value and the offset after it, or a failure. -/
abbrev Step (α : Type) := Except Failure (α × Nat)

/-- A soft failure. -/
def soft {α : Type} (pos : Nat) (message : String) : Step α := .error ⟨pos, message, false⟩

/-- A hard failure. -/
def hard {α : Type} (pos : Nat) (message : String) : Step α := .error ⟨pos, message, true⟩

/-- Make a failure hard. -/
def harden {α : Type} : Step α → Step α
  | .error f => .error { f with cut := true }
  | r => r

/-- A scalar value. -/
inductive Scalar where
  | string (s : String)
  | integer (i : Int)
  | float (value : Binary64)
  | boolean (b : Bool)
  | datetime (text : String)
  deriving DecidableEq, Repr

section Bytes

variable (s : Array UInt8)

/-- The byte at an offset, if any. -/
def byteAt (i : Nat) : Option UInt8 := s[i]?

/-- The byte at an offset is `c`. -/
def isAt (i : Nat) (c : Char) : Bool := s[i]? == some c.toNat.toUInt8

/-- The bytes at an offset spell `word`. -/
def startsWith (i : Nat) (word : String) : Bool :=
  (word.toUTF8.toList.zipIdx).all fun (b, k) => s[i + k]? == some b

/-- Skip bytes while `p` holds. -/
def skipWhile (p : UInt8 → Bool) (i : Nat) : Nat :=
  go (s.size + 1 - i) i
where
  go : Nat → Nat → Nat
    | 0, i => i
    | fuel + 1, i => match s[i]? with
      | some b => if p b then go fuel (i + 1) else i
      | none => i

/-- The text of a byte range. -/
def slice (start stop : Nat) : String :=
  (String.fromUTF8? ⟨s.extract start stop⟩).getD ""

end Bytes

/-- Space or tab. -/
def isWs (b : UInt8) : Bool := b = 32 ∨ b = 9

/-- A byte of a bare key. -/
def isBareKey (b : UInt8) : Bool :=
  (48 ≤ b ∧ b ≤ 57) ∨ (65 ≤ b ∧ b ≤ 90) ∨ (97 ≤ b ∧ b ≤ 122) ∨ b = 45 ∨ b = 95

/-- A byte a basic string holds without escaping. -/
def isBasicChar (b : UInt8) : Bool :=
  b = 9 ∨ b = 32 ∨ b = 0x21 ∨ (0x23 ≤ b ∧ b ≤ 0x5b) ∨ (0x5d ≤ b ∧ b ≤ 0x7e) ∨ b ≥ 0x80

/-- A byte a literal string holds. -/
def isLiteralChar (b : UInt8) : Bool := b = 9 ∨ (0x20 ≤ b ∧ b ≤ 0x26) ∨ (0x28 ≤ b ∧ b ≤ 0x7e) ∨ b ≥ 0x80

/-- A byte a comment holds. -/
def isCommentChar (b : UInt8) : Bool := b = 9 ∨ (0x20 ≤ b ∧ b ≤ 0x7e) ∨ b ≥ 0x80

/-- A decimal digit. -/
def isDigit (b : UInt8) : Bool := 48 ≤ b ∧ b ≤ 57

/-- A hexadecimal digit. -/
def isHexDigit (b : UInt8) : Bool := isDigit b ∨ (65 ≤ b ∧ b ≤ 70) ∨ (97 ≤ b ∧ b ≤ 102)

/-- The value of a digit in base 16 or less. -/
def digitValue (b : UInt8) : Nat :=
  if isDigit b then b.toNat - 48 else if 65 ≤ b ∧ b ≤ 70 then b.toNat - 55 else b.toNat - 87

/-- The message of a value that starts like nothing known. -/
def notAValue : String := "invalid string\nexpected `\"`, `'`"

/-- The message of an unknown escape. -/
def badEscape : String :=
  "invalid escape sequence\nexpected `b`, `f`, `n`, `r`, `t`, `u`, `U`, `\\`, `\"`"

variable (s : Array UInt8)

/-- A line ending at an offset (line feed, carriage return and line feed, or the end): the offset
after it. -/
def lineEnding (i : Nat) : Option Nat :=
  if isAt s i '\n' then some (i + 1)
  else if isAt s i '\r' ∧ isAt s (i + 1) '\n' then some (i + 2)
  else if i ≥ s.size then some i
  else none

/-- A newline (not the end): the offset after it. -/
def newline (i : Nat) : Option Nat :=
  if isAt s i '\n' then some (i + 1)
  else if isAt s i '\r' ∧ isAt s (i + 1) '\n' then some (i + 2)
  else none

/-- A comment at an offset: the offset after it. -/
def comment (i : Nat) : Option Nat :=
  if isAt s i '#' then some (skipWhile s isCommentChar (i + 1)) else none

/-- A newline that must come at `i`. Anything else fails softly, with no message, one byte on;
the end fails where it is. -/
def requireNewline (i : Nat) : Step Unit :=
  match s[i]? with
  | none => soft i ""
  | some b =>
    if b = 10 then .ok ((), i + 1)
    else if b = 13 ∧ isAt s (i + 1) '\n' then .ok ((), i + 2)
    else soft (i + 1) ""

/-- Spaces, tabs, newlines and comments around the items of an array; a comment, and a carriage
return, must be followed by a newline. -/
def itemGap (i : Nat) : Step Unit :=
  go (s.size + 1) i
where
  go : Nat → Nat → Step Unit
    | 0, i => .ok ((), i)
    | fuel + 1, i =>
      let j := skipWhile s isWs i
      let next (r : Step Unit) : Step Unit :=
        match r with
        | .ok ((), k) => go fuel k
        | .error f => .error f
      if isAt s j '#' then next (requireNewline s (skipWhile s isCommentChar (j + 1)))
      else if isAt s j '\n' ∨ isAt s j '\r' then next (requireNewline s j)
      else .ok ((), j)

/-- The end of a line after a value: spaces, an optional comment, a line ending. -/
def lineTrailing (i : Nat) (header : Bool) : Step Unit :=
  let j := skipWhile s isWs i
  let j := (comment s j).getD j
  match lineEnding s j with
  | some k => .ok ((), k)
  | none => hard j ((if header then "invalid table header\n" else "") ++ "expected newline, `#`")

/-- `n` hexadecimal digits of a unicode escape at `i`: the character's UTF-8 bytes. -/
def unicodeEscape (i n : Nat) : Step (List UInt8) :=
  let label := if n = 4 then "unicode 4-digit hex code" else "unicode 8-digit hex code"
  let j := skipWhile s isHexDigit i
  if j - i < n then hard i s!"invalid {label}" else
  let code := (List.range n).foldl (fun acc k => 16 * acc + digitValue (s.getD (i + k) 0)) 0
  if code.isValidChar then .ok ((Char.ofNat code).toString.toUTF8.toList, i + n)
  else hard i s!"invalid {label}\nvalue is out of range"

/-- An escape after a backslash at `i - 1`: the bytes it stands for. At the end there is none
(a soft failure at the backslash). -/
def escape (i : Nat) : Step (List UInt8) :=
  match s[i]? with
  | none => soft (i - 1) ""
  | some b =>
    match Char.ofNat b.toNat with
    | 'b' => .ok ([8], i + 1)
    | 'f' => .ok ([12], i + 1)
    | 'n' => .ok ([10], i + 1)
    | 'r' => .ok ([13], i + 1)
    | 't' => .ok ([9], i + 1)
    | '\\' => .ok ([92], i + 1)
    | '"' => .ok ([34], i + 1)
    | 'u' => unicodeEscape s (i + 1) 4
    | 'U' => unicodeEscape s (i + 1) 8
    | _ => hard (i + 1) badEscape

/-- The body of a basic string from `i` to its closing quote. -/
def basicBody (i : Nat) : Step (List UInt8) :=
  go (s.size + 1) i []
where
  go : Nat → Nat → List UInt8 → Step (List UInt8)
    | 0, i, _ => hard i "invalid basic string"
    | fuel + 1, i, acc =>
      match s[i]? with
      | some b =>
        if b = 34 then .ok (acc, i + 1)
        else if isBasicChar b then go fuel (i + 1) (acc ++ [b])
        else if b = 92 then
          match escape s (i + 1) with
          | .ok (bs, j) => go fuel j (acc ++ bs)
          | .error f => if f.cut then .error f else hard i "invalid basic string"
        else hard i "invalid basic string"
      | none => hard i "invalid basic string"

/-- Spaces, tabs and newlines: the offset after them. -/
def blankLines (i : Nat) : Nat :=
  go (s.size + 1) i
where
  go : Nat → Nat → Nat
    | 0, i => i
    | fuel + 1, i =>
      let j := skipWhile s isWs i
      match newline s j with
      | some k => go fuel k
      | none => j

/-- One piece of a multi-line body at `i`: a character, a newline (read as a line feed), and in
a basic body an escape or a backslash ending its line, which stands for nothing and swallows the
blank lines after it. `none` when nothing of the body starts at `i`. -/
def multilinePiece (basic : Bool) (i : Nat) : Except Failure (Option (List UInt8 × Nat)) :=
  match newline s i with
  | some j => .ok (some ([10], j))
  | none =>
    match s[i]? with
    | none => .ok none
    | some b =>
      if basic ∧ b = 92 then
        match newline s (skipWhile s isWs (i + 1)) with
        | some k => .ok (some ([], blankLines s k))
        | none =>
          match escape s (i + 1) with
          | .ok (bs, k) => .ok (some (bs, k))
          | .error f => if f.cut then .error f else .ok none
      else if (if basic then isBasicChar b else isLiteralChar b) then .ok (some ([b], i + 1))
      else .ok none

/-- One or two quotes `q` at `i` with `follows` true after them, two preferred: how many. -/
def quotesAt (q : UInt8) (follows : Nat → Bool) (i : Nat) : Option Nat :=
  if s[i]? == some q ∧ s[i + 1]? == some q ∧ follows (i + 2) then some 2
  else if s[i]? == some q ∧ follows (i + 1) then some 1
  else none

/-- The body of a multi-line string from `i` (after the opening delimiter and a first newline)
and its closing delimiter. Inside the body one or two quotes must be followed by more of the
body; one or two more may stand right before the delimiter. Where the body cannot go on, the
delimiter must follow. A basic body gives up a run of quotes followed by nothing of the body
there, a literal body before it. -/
def multilineBody (basic : Bool) (i : Nat) : Step (List UInt8) :=
  go (s.size + 1) i []
where
  label : String := if basic then "invalid multiline basic string" else "invalid multiline literal string"
  quote : UInt8 := if basic then 34 else 39
  notQuote (j : Nat) : Bool := match s[j]? with
    | some b => b ≠ quote
    | none => false
  delimiter (j : Nat) : Bool := (List.range 3).all fun k => s[j + k]? == some quote
  finish (i : Nat) (acc : List UInt8) : Step (List UInt8) :=
    let n := (quotesAt s quote delimiter i).getD 0
    if delimiter (i + n) then .ok (acc ++ List.replicate n quote, i + n + 3) else hard (i + n) label
  go : Nat → Nat → List UInt8 → Step (List UInt8)
    | 0, i, _ => hard i label
    | fuel + 1, i, acc =>
      match multilinePiece s basic i with
      | .error f => .error f
      | .ok (some (bs, j)) => go fuel j (acc ++ bs)
      | .ok none =>
        match quotesAt s quote notQuote i with
        | none => finish i acc
        | some n =>
          match multilinePiece s basic (i + n) with
          | .error f => .error f
          | .ok (some (bs, j)) => go fuel j (acc ++ List.replicate n quote ++ bs)
          | .ok none => finish (if basic then i + n else i) acc

/-- Text from UTF-8 bytes read out of the file. -/
def text (bs : List UInt8) : String := (String.fromUTF8? ⟨bs.toArray⟩).getD ""

/-- A string at `i`: multi-line basic, basic, multi-line literal or literal. -/
def readString (i : Nat) : Step String :=
  if startsWith s i "\"\"\"" then
    let j := (newline s (i + 3)).getD (i + 3)
    (multilineBody s true j).map fun (bs, k) => (text bs, k)
  else if isAt s i '"' then
    (basicBody s (i + 1)).map fun (bs, k) => (text bs, k)
  else if startsWith s i "'''" then
    let j := (newline s (i + 3)).getD (i + 3)
    (multilineBody s false j).map fun (bs, k) => (text bs, k)
  else
    let j := skipWhile s isLiteralChar (i + 1)
    if isAt s j '\'' then .ok (slice s (i + 1) j, j + 1) else hard j "invalid literal string"

end Toml

end DeviceBoot
