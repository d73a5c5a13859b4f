import DeviceBoot.Tooling.Toml.DateTime
/-!
# TOML tables and how a document builds them

A document's values sit in tables: the root, tables named by headers (`[a.b]`), the tables of an
array of tables (`[[a]]`), tables made on the way to a longer path, and inline tables
(`{ k = v }`). Each entry keeps its key, the key's span and, where the value has one, the value's
span: a header's table spans its header and is stretched to the end of each value put in it; a
table made on the way has none.

The document is built the way it is read. The table of the latest header is *open*: it is held
apart from the root, key/value lines go into it, and it is put in place when the next header
comes or the document ends. A header first puts the open table in place, then opens its own:

* `[path]` finds the parent along the path, making missing tables on the way. A table already
  there is taken over only if it was made on the way by a header path (it moves to the end of
  its parent); anything else there is a duplicate.
* `[[path]]` finds the parent the same way; the key must be new or an array of tables, and a new
  table is appended to it when it is put in place.
* `key = value` goes into the open table; along a dotted key, missing tables are made as dotted
  tables, and a dotted key may go through tables made on the way but not through a header's
  table. A dotted key must end in a dotted table, and the last key must be new.

Walking a path through an array of tables goes into its last table; walking into a value that
is not a table is an error naming the path up to that value.

Main definitions: `Toml.Value`, `Toml.DocError`, `Toml.Building`.
-/

namespace DeviceBoot

namespace Toml

/-- How a table came to be. -/
inductive TableKind where
  /-- Made on the way to a longer header path. -/
  | implicit
  /-- Defined by its own header, or a table of an array of tables. -/
  | header
  /-- Made on the way along a dotted key. -/
  | dotted
  /-- Written inline. -/
  | inline
  /-- Made on the way along a dotted key inside an inline table. -/
  | inlineDotted
  deriving DecidableEq, Repr

/-- A value of a document. -/
inductive Value where
  | scalar (v : Scalar)
  /-- An array: each item with its span; `ofTables` for an array of tables made by headers. -/
  | array (items : List (Option Span × Value)) (ofTables : Bool)
  /-- A table: each entry with its key, the key's span and the value's span. -/
  | table (kind : TableKind) (entries : List (String × Span × Option Span × Value))
  deriving Repr

/-- A table entry: key, key span, value span, value. -/
abbrev Entry := String × Span × Option Span × Value

/-- The name of a value's type, as errors about extending it say. -/
def Value.typeName : Value → String
  | .scalar (.string _) => "string"
  | .scalar (.integer _) => "integer"
  | .scalar (.float _) => "float"
  | .scalar (.boolean _) => "boolean"
  | .scalar (.datetime _) => "datetime"
  | .array _ true => "array of tables"
  | .array _ false => "array"
  | .table .inline _ | .table .inlineDotted _ => "inline table"
  | .table _ _ => "table"

/-- The span a type error about an entry points at: the value's; for an array of tables, from
its first table's start to its last table's end; else the key's. -/
def errorSpan : Entry → Span
  | (_, _, _, .array items true) =>
    match items.head?, items.getLast? with
    | some (some (start, _), _), some (some (_, stop), _) => (start, stop)
    | _, _ => (0, 0)
  | (_, keySpan, valueSpan, _) => valueSpan.getD keySpan

/-- Why a document cannot be built. -/
inductive DocError where
  /-- A key defined twice; the table it is in is named when the message names it. -/
  | duplicate (key : String) (table : Option (List String))
  /-- A path that goes into a value that is not a table. -/
  | extendNonTable (path : List String) (typeName : String)
  deriving DecidableEq, Repr

/-- The message of a document error. -/
def DocError.message : DocError → String
  | .duplicate key none => s!"duplicate key `{key}`"
  | .duplicate key (some []) => s!"duplicate key `{key}` in document root"
  | .duplicate key (some path) =>
    let dotted := ".".intercalate path
    s!"duplicate key `{key}` in table `{dotted}`"
  | .extendNonTable path typeName =>
    let dotted := ".".intercalate path
    s!"dotted key `{dotted}` attempted to extend non-table type ({typeName})"

/-- Look up an entry. -/
def lookup (entries : List Entry) (key : String) : Option Entry :=
  entries.find? fun e => e.1 = key

/-- Replace the value of an entry, keeping its place. -/
def replace (entries : List Entry) (key : String) (v : Value) (span : Option Span) : List Entry :=
  entries.map fun e => if e.1 = key then (e.1, e.2.1, span, v) else e

/-- Remove an entry. -/
def remove (entries : List Entry) (key : String) : List Entry :=
  entries.filter fun e => e.1 ≠ key

/-- Apply `f` to the last table of an array of tables' items. -/
def onLastTable {β : Type} (f : List Entry → Except DocError (List Entry × β)) (fallback : β)
    (items : List (Option Span × Value)) : Except DocError (List (Option Span × Value) × β) :=
  match items.getLast? with
  | some (itemSpan, .table kind inner) => do
    let (inner, r) ← f inner
    pure (items.dropLast ++ [(itemSpan, .table kind inner)], r)
  | _ => .ok (items, fallback)

/-- Put `key = value` into a table along a dotted key `path` of the document: `table` is the
open table's header path, `walked` the part of `path` already walked, and `dotted` whether the
table reached so far was made by a dotted key. -/
def insertDotted (table : List String) (key : String × Span) (value : Option Span × Value)
    (walked : List String) (dotted : Bool) : List (String × Span) → List Entry →
    Except DocError (List Entry)
  | [], entries =>
    if !walked.isEmpty ∧ !dotted then .error (.duplicate key.1 none) else
    match lookup entries key.1 with
    | some _ => .error (.duplicate key.1 (some table))
    | none => .ok (entries ++ [(key.1, key.2, value.1, value.2)])
  | (k, ks) :: rest, entries =>
    let walked := walked ++ [k]
    match lookup entries k with
    | none => do
      let inner ← insertDotted table key value walked true rest []
      pure (entries ++ [(k, ks, none, .table .dotted inner)])
    | some (_, _, span, .table .implicit inner) => do
      let inner ← insertDotted table key value walked false rest inner
      pure (replace entries k (.table .implicit inner) span)
    | some (_, _, span, .table .dotted inner) => do
      let inner ← insertDotted table key value walked true rest inner
      pure (replace entries k (.table .dotted inner) span)
    | some (_, _, _, .table .header _) => .error (.duplicate k none)
    | some (_, _, span, .array items true) => do
      let (items, ()) ← onLastTable
        (fun inner => (insertDotted table key value walked false rest inner).map (·, ())) () items
      pure (replace entries k (.array items true) span)
    | some (_, _, _, v) => .error (.extendNonTable walked v.typeName)

/-- Put `key = value` into an inline table along a dotted key `path`. -/
def insertInline (key : String × Span) (value : Option Span × Value) (walked : List String) :
    List (String × Span) → List Entry → Except DocError (List Entry)
  | [], entries =>
    match lookup entries key.1 with
    | some _ => .error (.duplicate key.1 none)
    | none => .ok (entries ++ [(key.1, key.2, value.1, value.2)])
  | (k, ks) :: rest, entries =>
    let walked := walked ++ [k]
    match lookup entries k with
    | none => do
      let inner ← insertInline key value walked rest []
      pure (entries ++ [(k, ks, none, .table .inlineDotted inner)])
    | some (_, _, span, .table .inlineDotted inner) => do
      let inner ← insertInline key value walked rest inner
      pure (replace entries k (.table .inlineDotted inner) span)
    | some (_, _, _, .table .inline _) => .error (.duplicate k none)
    | some (_, _, _, v) => .error (.extendNonTable walked v.typeName)

/-- Apply `f` to the entries of the table at a header path, making missing tables on the way;
`walked` is the part of the path already walked. `f` also gives a result, `fallback` standing in
for it when the path ends in an array without tables. -/
def atPath {β : Type} (f : List Entry → Except DocError (List Entry × β)) (fallback : β)
    (walked : List String) : List (String × Span) → List Entry → Except DocError (List Entry × β)
  | [], entries => f entries
  | (k, ks) :: rest, entries =>
    let walked := walked ++ [k]
    match lookup entries k with
    | none => do
      let (inner, r) ← atPath f fallback walked rest []
      pure (entries ++ [(k, ks, none, .table .implicit inner)], r)
    | some (_, _, span, .table kind inner) =>
      if kind = .inline ∨ kind = .inlineDotted then
        .error (.extendNonTable walked (Value.table kind inner).typeName)
      else do
        let (inner, r) ← atPath f fallback walked rest inner
        pure (replace entries k (.table kind inner) span, r)
    | some (_, _, span, .array items true) => do
      let (items, r) ← onLastTable (atPath f fallback walked rest) fallback items
      pure (replace entries k (.array items true) span, r)
    | some (_, _, _, v) => .error (.extendNonTable walked v.typeName)

/-- A character of a key written bare. -/
def isBareKeyChar (c : Char) : Bool := c.isAlphanum || c = '-' || c = '_'

/-- A character of a key written between double quotes: the short escapes, `\uXXXX` with
upper-case digits for the other control characters, anything else as it is. -/
def quotedKeyChar (c : Char) : String :=
  match c with
  | '\x08' => "\\b"
  | '\t' => "\\t"
  | '\n' => "\\n"
  | '\x0c' => "\\f"
  | '\r' => "\\r"
  | '"' => "\\\""
  | '\\' => "\\\\"
  | c =>
    if c.toNat ≤ 0x1f ∨ c.toNat = 0x7f then
      let ds := (Hex.digits c.toNat).map Char.toUpper
      "\\u" ++ String.ofList (List.replicate (4 - ds.length) '0' ++ ds)
    else c.toString

/-- Whether three single quotes stand in a row. -/
def hasTripleQuote : List Char → Bool
  | '\'' :: '\'' :: '\'' :: _ => true
  | _ :: rest => hasTripleQuote rest
  | [] => false

/-- Whether a key that cannot be bare is written between single quotes: it holds a backslash,
which single quotes keep as it is, and single quotes can hold it: no control character but tab
and line feed, no three single quotes in a row, no single quote at the end. -/
def prefersLiteral (key : String) : Bool :=
  key.contains '\\' &&
    key.all (fun c => c = '\t' || c = '\n' || !(c.toNat ≤ 0x1f || c.toNat = 0x7f)) &&
    !hasTripleQuote key.toList && !key.endsWith "'"

/-- A key as a document writes it when nothing says how: bare when it is a nonempty run of ASCII
letters, digits, `-` and `_`, between single quotes as `prefersLiteral` says, otherwise between
double quotes. -/
def keyRepr (key : String) : String :=
  if !key.isEmpty && key.all isBareKeyChar then key
  else if prefersLiteral key then "'" ++ key ++ "'"
  else "\"" ++ String.join (key.toList.map quotedKeyChar) ++ "\""

/-- A document being built: the root, and the open table with its span, its header path (each
key with its span) and whether it belongs to an array of tables. -/
structure Building where
  root : List Entry := []
  current : List Entry := []
  span : Option Span := none
  path : List (String × Span) := []
  inArray : Bool := false
  deriving Repr

namespace Building

/-- A header path split into its parent path and its last key. -/
def splitLast (path : List (String × Span)) : Option (List (String × Span) × (String × Span)) :=
  path.getLast?.map fun last => (path.dropLast, last)

/-- The error of a header whose last key is already taken, in the table of `parent`: the key as
a document writes it, the table by its keys' names. -/
def taken (parent : List (String × Span)) (key : String) : DocError :=
  .duplicate (keyRepr key) (some (parent.map Prod.fst))

/-- The root with the open table put in place. -/
def close (b : Building) : Except DocError (List Entry) :=
  match splitLast b.path with
  | none => .ok b.current
  | some (parent, (k, ks)) =>
    let table := Value.table .header b.current
    let place (entries : List Entry) : Except DocError (List Entry × Unit) :=
      match lookup entries k, b.inArray with
      | none, true => .ok (entries ++ [(k, ks, none, .array [(b.span, table)] true)], ())
      | some (_, _, span, .array items true), true =>
        .ok (replace entries k (.array (items ++ [(b.span, table)]) true) span, ())
      | none, false => .ok (entries ++ [(k, ks, b.span, table)], ())
      | some (_, _, _, .table .implicit _), false => .ok (replace entries k table b.span, ())
      | _, _ => .error (taken parent k)
    (atPath place () [] parent b.root).map Prod.fst

/-- Open the table of a header `[path]` spanning `span`: a table made on the way there is taken
out of its parent and reopened. -/
def openTable (b : Building) (path : List (String × Span)) (span : Span) :
    Except DocError Building := do
  let root ← b.close
  match splitLast path with
  | none => pure { current := root }
  | some (parent, (k, _)) =>
    let takeOut (entries : List Entry) : Except DocError (List Entry × List Entry) :=
      match lookup entries k with
      | none => .ok (entries, [])
      | some (_, _, _, .table .implicit inner) => .ok (remove entries k, inner)
      | some _ => .error (taken parent k)
    let (root, inner) ← atPath takeOut [] [] parent root
    pure { root := root, current := inner, span := some span, path := path, inArray := false }

/-- Open a new table of an array of tables `[[path]]` spanning `span`. -/
def openArrayTable (b : Building) (path : List (String × Span)) (span : Span) :
    Except DocError Building := do
  let root ← b.close
  match splitLast path with
  | none => pure { current := root }
  | some (parent, (k, ks)) =>
    let claim (entries : List Entry) : Except DocError (List Entry × Unit) :=
      match lookup entries k with
      | none => .ok (entries ++ [(k, ks, none, .array [] true)], ())
      | some (_, _, _, .array _ true) => .ok (entries, ())
      | some _ => .error (taken parent k)
    let (root, ()) ← atPath claim () [] parent root
    pure { root := root, current := [], span := some span, path := path, inArray := true }

/-- Put `key = value` into the open table along the dotted key `path`, stretching the open
table's span to the value's end. -/
def put (b : Building) (path : List (String × Span)) (key : String × Span)
    (value : Option Span × Value) : Except DocError Building := do
  let span := match b.span, value.1 with
    | some (start, _), some (_, stop) => some (start, stop)
    | s, _ => s
  let current ← insertDotted (b.path.map Prod.fst) key value [] false path b.current
  pure { b with current := current, span := span }

end Building

end Toml

end DeviceBoot
