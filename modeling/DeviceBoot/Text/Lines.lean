/-!
# Lines of a text

A text read line by line is cut after each `\n`; the `\n` and one `\r` right before it belong to
the line ending, not to the line. A text that ends with a line ending has no empty last line
after it, and a last line without an ending keeps all of its characters, a lone `\r` included.

Main definitions: `Lines.split`.
-/

namespace DeviceBoot

namespace Lines

/-- A finished line: its characters (in reverse) without the `\r` that ended it, if any. -/
def close (rev : List Char) : String :=
  match rev with
  | '\r' :: rest => String.ofList rest.reverse
  | _ => String.ofList rev.reverse

/-- The lines of a text's characters; `rev` holds the current line's characters in reverse. -/
def splitChars : List Char → List Char → List String
  | [], [] => []
  | [], rev => [String.ofList rev.reverse]
  | '\n' :: rest, rev => close rev :: splitChars rest []
  | c :: rest, rev => splitChars rest (c :: rev)

/-- The lines of a text. -/
def split (s : String) : List String := splitChars s.toList []

end Lines

end DeviceBoot
