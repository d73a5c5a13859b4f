import DeviceBoot.Tooling.Toml.Document
import DeviceBoot.Tooling.Toml.Report
import DeviceBoot.Number.Shortest
import DeviceBoot.Text.Quote
/-!
# Build settings

The firmware build reads four optional settings from the workspace's TOML file: the target
triple, whether to build for release, the runtime archive to link, and extra features. Keys it
does not know are ignored; a missing key keeps its default. A value of the wrong type is an error
at that value, saying what was found and what was expected, as the reader reports errors.

Main definitions: `BuildSettings`, `BuildSettings.read`.
-/

namespace DeviceBoot

/-- The firmware build's settings. -/
structure BuildSettings where
  target : Option String := none
  release : Option Bool := none
  archive : Option String := none
  features : List String := []
  deriving DecidableEq, Repr

namespace Toml

/-- A float as a type error shows it: the fewest digits that read back, in positional notation,
with `.0` added to a finite value that has no point. -/
def floatText (v : Binary64) : String :=
  let t := v.positional
  match v with
  | .finite _ _ _ => if t.contains '.' then t else t ++ ".0"
  | _ => t

/-- How a value is described when it is not what a setting expects. -/
def Value.unexpected : Value → String
  | .scalar (.string t) => s!"string {Quote.debug t}"
  | .scalar (.integer i) => s!"integer `{i}`"
  | .scalar (.float f) => s!"floating point `{floatText f}`"
  | .scalar (.boolean b) => s!"boolean `{b}`"
  | .scalar (.datetime _) => "map"
  | .array _ _ => "sequence"
  | .table _ _ => "map"

end Toml

namespace BuildSettings

open Toml

/-- A type error at a span. -/
def mismatch {α : Type} (span : Span) (v : Value) (expected : String) : Except (Span × String) α :=
  .error (span, s!"invalid type: {v.unexpected}, expected {expected}")

/-- A text setting. -/
def text (span : Span) (expected : String) : Value → Except (Span × String) String
  | .scalar (.string t) => .ok t
  | v => mismatch span v expected

/-- Take one entry of the root table into the settings. -/
def take (acc : BuildSettings) : Entry → Except (Span × String) BuildSettings
  | entry@(key, _, _, v) =>
    let span := errorSpan entry
    match key with
    | "target" => return { acc with target := some (← text span "a string" v) }
    | "release" =>
      match v with
      | .scalar (.boolean b) => .ok { acc with release := some b }
      | _ => mismatch span v "a boolean"
    | "libmicropython" => return { acc with archive := some (← text span "path string" v) }
    | "features" =>
      match v with
      | .array items _ => do
        let names ← items.mapM fun (itemSpan, item) => text (itemSpan.getD span) "a string" item
        pure { acc with features := names }
      | _ => mismatch span v "a sequence"
    | _ => .ok acc

/-- The settings of a root table. -/
def ofEntries (entries : List Entry) : Except (Span × String) BuildSettings :=
  entries.foldlM take {}

/-- Read the settings from a file's text; an error is reported as the reader reports it. -/
def read (raw : String) : Except String BuildSettings :=
  let s := raw.toUTF8.data
  match readDocument s with
  | .error f =>
    let span := charSpan s f.pos
    .error (render raw span f.message)
  | .ok entries =>
    match ofEntries entries with
    | .ok settings => .ok settings
    | .error (span, message) => .error (render raw span message)

end BuildSettings

end DeviceBoot
