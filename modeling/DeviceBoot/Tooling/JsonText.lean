import DeviceBoot.Text.Quote
/-!
# JSON text

The build manifest is a JSON document written in the indented form: each array item and object
member on a line of its own, indented two spaces deeper than its container, members written
`"key": value`, and empty arrays and objects as `[]` and a pair of braces. Strings escape quotes,
backslashes and control characters; everything else is kept as it is.

Objects keep their members in the order given; the manifest gives them sorted by key.

Main definitions: `JsonValue`, `JsonValue.pretty`.
-/

namespace DeviceBoot

/-- A JSON value with natural numbers. -/
inductive JsonValue where
  | null
  | bool (b : Bool)
  | num (n : Nat)
  | str (s : String)
  | arr (items : List JsonValue)
  | obj (fields : List (String × JsonValue))
  deriving Repr, Inhabited

namespace JsonValue

/-- A string or null. -/
def ofOption : Option String → JsonValue
  | some s => .str s
  | none => .null

/-- One character of a string literal. -/
def escapeChar (c : Char) : String :=
  match c with
  | '"' => "\\\""
  | '\\' => "\\\\"
  | '\n' => "\\n"
  | '\r' => "\\r"
  | '\t' => "\\t"
  | '\x08' => "\\b"
  | '\x0c' => "\\f"
  | _ =>
    if c.toNat < 0x20 then
      "\\u00" ++ String.ofList (Hex.byteDigits c.toNat.toUInt8)
    else c.toString

/-- A string literal. -/
def quote (s : String) : String := "\"" ++ String.join (s.toList.map escapeChar) ++ "\""

/-- The indentation of a nesting depth. -/
def indent (depth : Nat) : String := String.ofList (List.replicate (2 * depth) ' ')

mutual

/-- A value in the indented form, at a nesting depth. -/
def pretty (depth : Nat) : JsonValue → String
  | .null => "null"
  | .bool b => toString b
  | .num n => toString n
  | .str s => quote s
  | .arr [] => "[]"
  | .arr items => "[\n" ++ prettyItems (depth + 1) items ++ "\n" ++ indent depth ++ "]"
  | .obj [] => "\x7b\x7d"
  | .obj fields => "\x7b\n" ++ prettyFields (depth + 1) fields ++ "\n" ++ indent depth ++ "\x7d"

/-- Array items, one a line. -/
def prettyItems (depth : Nat) : List JsonValue → String
  | [] => ""
  | [v] => indent depth ++ pretty depth v
  | v :: rest => indent depth ++ pretty depth v ++ ",\n" ++ prettyItems depth rest

/-- Object members, one a line. -/
def prettyFields (depth : Nat) : List (String × JsonValue) → String
  | [] => ""
  | [(k, v)] => indent depth ++ quote k ++ ": " ++ pretty depth v
  | (k, v) :: rest => indent depth ++ quote k ++ ": " ++ pretty depth v ++ ",\n" ++ prettyFields depth rest

end

/-- The indented text of a document. -/
def render (v : JsonValue) : String := pretty 0 v

end JsonValue

end DeviceBoot
