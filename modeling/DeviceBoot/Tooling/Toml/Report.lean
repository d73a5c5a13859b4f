import DeviceBoot.Tooling.Toml.Scan
/-!
# Reporting TOML errors

An error is reported at a span of the file: a header with the line and column of the span's
start, the line itself, carets under the span, then the message. A reading fault's span is the
whole character at the offset where reading stopped (nothing at the end of the file); a type
error's span is the value's.

The line is the span's start's line when the file is cut at line feeds. The column counts
characters from the line's start through the first byte at the span's start, less one; when
those bytes are not UTF-8 on their own (the span starts a character of several bytes) it counts
bytes instead. There are as many carets as the span has bytes, but not more than the line has
bytes after the column, and at least one.

Main definitions: `Toml.charSpan`, `Toml.position`, `Toml.render`.
-/

namespace DeviceBoot

namespace Toml

/-- Whether a byte starts a UTF-8 character (it is not a continuation byte). -/
def startsChar (b : UInt8) : Bool := b < 0x80 ∨ b ≥ 0xc0

variable (s : Array UInt8)

/-- The span of the character at byte offset `i`: back to where it starts and on to where the
next one starts; empty at the end of the file. -/
def charSpan (i : Nat) : Span :=
  if i ≥ s.size then (i, i) else
  let start := ((List.range (i + 1)).reverse.find? fun k => startsChar (s.getD k 0)).getD 0
  let stop := ((List.range (s.size - (i + 1))).map (· + (i + 1))).find? fun k => startsChar (s.getD k 0)
  (start, stop.getD s.size)

/-- The zero-based line and column of a byte offset; the column counts characters when the line
up to the offset is UTF-8, and bytes otherwise. -/
def position (i : Nat) : Nat × Nat :=
  if s.size = 0 then (0, i) else
  let safe := min i (s.size - 1)
  let extra := i - safe
  let lineStart := ((List.range safe).reverse.find? fun k => s[k]? == some 10).map (· + 1) |>.getD 0
  let line := ((List.range lineStart).filter fun k => s[k]? == some 10).length
  let column := match String.fromUTF8? ⟨s.extract lineStart (safe + 1)⟩ with
    | some t => t.length - 1
    | none => safe - lineStart
  (line, column + extra)

/-- A failure as it is reported, for a file with `raw` text: where, the line, a caret under the
span, and the message. -/
def render (raw : String) (span : Span) (message : String) : String :=
  let s := raw.toUTF8.data
  let (line, column) := position s span.1
  let lineNo := line + 1
  let gutter := (toString lineNo).length
  let content := ((raw.splitOn "\n").getD line "")
  let width := min (span.2 - span.1) (content.utf8ByteSize - column)
  let carets := String.ofList (List.replicate (max 1 width) '^')
  let pad (n : Nat) := String.ofList (List.replicate n ' ')
  s!"TOML parse error at line {lineNo}, column {column + 1}\n" ++
    pad (gutter + 1) ++ "|\n" ++
    s!"{lineNo} | {content}\n" ++
    pad (gutter + 1) ++ "|" ++ pad (column + 1) ++ carets ++ "\n" ++
    message ++ "\n"


end Toml

end DeviceBoot
