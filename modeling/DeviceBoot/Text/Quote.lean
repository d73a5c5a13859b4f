import DeviceBoot.Text.Hex
import DeviceBoot.Text.Printable
import DeviceBoot.Text.Extending
/-!
# Quoting text

The build tool shows text in two quoted forms:

* `Quote.debug`: a double-quoted string with backslash escapes for quotes, backslashes, tabs and
  line ends, `\0` for NUL, and `\u{hex}` for every character that is not printable or that
  extends a grapheme (a mark that would otherwise merge with the text before it);
* `Quote.shell`: a word a POSIX shell reads back as itself: left bare when it has only letters,
  digits and `-_=/,.+` (and is not empty), else single-quoted, with each `'` and `!` written as
  `'\''` and `'\!'`.

Main definitions: `Quote.debug`, `Quote.shell`.
-/

namespace DeviceBoot

namespace Quote

/-- A code point in lowercase hex, no padding. -/
def hexCode (n : Nat) : String := String.ofList (Hex.digits n)

/-- One character of a debug-quoted string: the usual backslash escapes, `\0` for NUL, and
`\u{hex}` for a character that extends a grapheme or is not printable. -/
def debugChar (c : Char) : String :=
  match c with
  | '\x00' => "\\0"
  | '\t' => "\\t"
  | '\r' => "\\r"
  | '\n' => "\\n"
  | '\\' => "\\\\"
  | '"' => "\\\""
  | _ =>
    if Extending.isExtending c || !Printable.isPrintable c then
      "\\u" ++ "\x7b" ++ hexCode c.toNat ++ "\x7d"
    else c.toString

/-- A string debug-quoted. -/
def debug (s : String) : String := "\"" ++ String.join (s.toList.map debugChar) ++ "\""

/-- A character a shell word may hold bare. -/
def shellSafe (c : Char) : Bool :=
  c.isAlphanum ∨ c = '-' ∨ c = '_' ∨ c = '=' ∨ c = '/' ∨ c = ',' ∨ c = '.' ∨ c = '+'

/-- A word quoted for a shell. -/
def shell (s : String) : String :=
  let bare := !s.isEmpty ∧ (s.toList.all fun c => shellSafe c ∧ c.toNat < 128)
  if bare then s else
  "'" ++ String.join (s.toList.map fun c =>
    if c = '\'' ∨ c = '!' then "'\\" ++ c.toString ++ "'" else c.toString) ++ "'"

end Quote

end DeviceBoot
