import DeviceBoot.Tooling.Toml.Table
/-!
# Reading TOML: documents

A document is a sequence of lines: blank lines, comments, key/value pairs and table headers
(`[a.b]` for a table, `[[a]]` for the next table of an array of tables). A key is a dotted path
of bare or quoted parts; its value is a scalar, an array (across lines, with comments) or an inline
table (`{ k = v, ... }` on one line). The tables are built as `Toml.Building` says.

Arrays and inline tables nest at most 79 deep, and a key has fewer than 80 parts; past that
reading stops with `recursion limit exceeded`, at the bracket or at the key.

Main definitions: `Toml.readKey`, `Toml.readValue`, `Toml.readDocument`.
-/

namespace DeviceBoot

namespace Toml

/-- How many arrays and inline tables may enclose a value, plus one; also the bound on the parts
of a key. -/
def nestingLimit : Nat := 80

/-- The message of a value nested too deep or a key with too many parts. -/
def tooDeep : String := "recursion limit exceeded"

variable (s : Array UInt8)

/-- One part of a key at `p`: bare, basic-quoted or literal-quoted. -/
def keyPart (p : Nat) : Step (String × Span) :=
  if isAt s p '"' then (basicBody s (p + 1)).map fun (bs, q) => ((text bs, (p, q)), q)
  else if isAt s p '\'' then
    let j := skipWhile s isLiteralChar (p + 1)
    if isAt s j '\'' then .ok ((slice s (p + 1) j, (p, j + 1)), j + 1) else hard j "invalid literal string"
  else
    let q := skipWhile s isBareKey p
    if q = p then soft p "invalid key" else .ok ((slice s p q, (p, q)), q)

/-- A dotted key at `i`, with spaces around its parts. A part missing after a dot leaves the dot
unread. -/
def readKey (i : Nat) : Step (List (String × Span)) :=
  go (s.size + 1) i []
where
  go : Nat → Nat → List (String × Span) → Step (List (String × Span))
    | 0, i, acc => .ok (acc, i)
    | fuel + 1, i, acc =>
      match keyPart s (skipWhile s isWs i) with
      | .error f => .error f
      | .ok (k, q) =>
        let r := skipWhile s isWs q
        let acc := acc ++ [k]
        if isAt s r '.' then
          match go fuel (r + 1) acc with
          | .error f => if f.cut then .error f else .ok (acc, r)
          | ok => ok
        else .ok (acc, r)

/-- Enough steps to read any value of the file: a level of nesting takes three steps and at
least one byte, a further item one step and at least one byte. -/
def valueFuel : Nat := 4 * (s.size + 2)

mutual

/-- A value at `i`, inside `depth` arrays and inline tables, with its span. -/
def readValue : Nat → Nat → Nat → Step (Value × Span)
  | 0, _, i => hard i tooDeep
  | fuel + 1, depth, i =>
    let scalar (r : Step Scalar) : Step (Value × Span) := r.map fun (v, j) => ((.scalar v, (i, j)), j)
    let word (w : String) (v : Scalar) (committed : Bool) : Step (Value × Span) :=
      if startsWith s i w then .ok ((.scalar v, (i, i + w.utf8ByteSize)), i + w.utf8ByteSize)
      else .error ⟨i, notAValue, committed⟩
    let nested (r : Nat → Step Value) : Step (Value × Span) :=
      if depth + 1 ≥ nestingLimit then hard i tooDeep
      else (r (depth + 1)).map fun (v, j) => ((v, (i, j)), j)
    match s[i]? with
    | none => soft i ""
    | some b =>
      match Char.ofNat b.toNat with
      | '"' | '\'' => scalar ((readString s i).map fun (t, j) => (.string t, j))
      | '[' => nested fun d => readArray fuel d i
      | '\x7b' => nested fun d => readInlineTable fuel d i
      | '+' | '-' => scalar (readNumber s i)
      | '_' => scalar (match readInteger s i with
        | .error f => .error { f with message := f.message ++ "\nexpected leading digit" }
        | ok => ok)
      | '.' => scalar (match readFloat s i with
        | .error f => .error { f with message := f.message ++ "\nexpected leading digit" }
        | ok => ok)
      | 't' => word "true" (.boolean true) true
      | 'f' => word "false" (.boolean false) true
      | 'i' => word "inf" (.float (.infinity false)) false
      | 'n' => word "nan" (.float .nan) false
      | c => if c.isDigit then scalar (readNumber s i) else soft i notAValue

/-- An array at `i` (its `[`), inside `depth` arrays and inline tables counting itself. The
gap before the `]` must read; a comma after the last item is allowed. -/
def readArray : Nat → Nat → Nat → Step Value
  | 0, _, i => hard i tooDeep
  | fuel + 1, depth, i =>
    let start := i + 1
    let close (items : List (Option Span × Value)) (pos : Nat) : Step Value :=
      match itemGap s pos with
      | .error f => .error { f with cut := true }
      | .ok ((), pos) =>
        if isAt s pos ']' then .ok (.array items false, pos + 1)
        else hard pos "invalid array\nexpected `]`"
    match readItem fuel depth start with
    | .error f => if f.cut then .error f else close [] start
    | .ok (item, j) =>
      match readItems fuel depth j [item] with
      | .error f => .error f
      | .ok (items, pos) => close items (if isAt s pos ',' then pos + 1 else pos)

/-- An array item at `i` with the gaps before and after it. -/
def readItem : Nat → Nat → Nat → Step (Option Span × Value)
  | 0, _, i => hard i tooDeep
  | fuel + 1, depth, i =>
    match itemGap s i with
    | .error f => .error f
    | .ok ((), j) =>
      match readValue fuel depth j with
      | .error f => .error f
      | .ok ((v, span), k) =>
        match itemGap s k with
        | .error f => .error f
        | .ok ((), m) => .ok ((some span, v), m)

/-- Further array items, each after a comma: the items and where they stop (at a comma whose item
did not read). -/
def readItems : Nat → Nat → Nat → List (Option Span × Value) → Step (List (Option Span × Value))
  | 0, _, pos, items => .ok (items, pos)
  | fuel + 1, depth, pos, items =>
    if isAt s pos ',' then
      match readItem fuel depth (pos + 1) with
      | .error f => if f.cut then .error f else .ok (items, pos)
      | .ok (item, j) => readItems fuel depth j (items ++ [item])
    else .ok (items, pos)

/-- An inline table at `i` (its brace), inside `depth` arrays and inline tables counting
itself. -/
def readInlineTable : Nat → Nat → Nat → Step Value
  | 0, _, i => hard i tooDeep
  | fuel + 1, depth, i =>
    let start := i + 1
    let finish (pairs : List (List (String × Span) × Span × Value)) (pos : Nat) : Step Value :=
      let put (es : List Entry) (pair : List (String × Span) × Span × Value) :
          Except DocError (List Entry) :=
        match pair.1.getLast? with
        | some key => insertInline key (some pair.2.1, pair.2.2) [] pair.1.dropLast es
        | none => .ok es
      match pairs.foldlM put [] with
      | .error e => hard start e.message
      | .ok entries =>
        let pos := skipWhile s isWs pos
        if isAt s pos '\x7d' then .ok (.table .inline entries, pos + 1)
        else hard pos "invalid inline table\nexpected `\x7d`"
    match readPair fuel depth start with
    | .error f => if f.cut then .error f else finish [] start
    | .ok (p, j) =>
      match readPairs fuel depth j [p] with
      | .error f => .error f
      | .ok (pairs, pos) => finish pairs pos

/-- One `key = value` pair of an inline table at `i`. -/
def readPair : Nat → Nat → Nat → Step (List (String × Span) × Span × Value)
  | 0, _, i => hard i tooDeep
  | fuel + 1, depth, i =>
    match readKey s i with
    | .error f => .error f
    | .ok (path, p) =>
      if path.length ≥ nestingLimit then soft i tooDeep else
      if !isAt s p '=' then hard p "expected `.`, `=`" else
      match readValue fuel depth (skipWhile s isWs (p + 1)) with
      | .error f => .error { f with cut := true }
      | .ok ((v, span), j) => .ok ((path, span, v), skipWhile s isWs j)

/-- Further pairs of an inline table, each after a comma. -/
def readPairs : Nat → Nat → Nat → List (List (String × Span) × Span × Value) →
    Step (List (List (String × Span) × Span × Value))
  | 0, _, pos, pairs => .ok (pairs, pos)
  | fuel + 1, depth, pos, pairs =>
    if isAt s pos ',' then
      match readPair fuel depth (pos + 1) with
      | .error f => if f.cut then .error f else .ok (pairs, pos)
      | .ok (p, j) => readPairs fuel depth j (pairs ++ [p])
    else .ok (pairs, pos)

end

/-- A `key = value` line at `i`. -/
def readKeyval (b : Building) (i : Nat) : Step Building :=
  match readKey s i with
  | .error f => .error { f with cut := true }
  | .ok (path, p) =>
    if path.length ≥ nestingLimit then hard i tooDeep else
    if !isAt s p '=' then hard p "expected `.`, `=`" else
    match readValue s (valueFuel s) 0 (skipWhile s isWs (p + 1)) with
    | .error f => .error { f with cut := true }
    | .ok ((v, span), j) =>
      match lineTrailing s j false with
      | .error f => .error f
      | .ok ((), k) =>
        match path.getLast? with
        | none => hard i "invalid key"
        | some key =>
          match b.put path.dropLast key (some span, v) with
          | .ok b => .ok (b, k)
          | .error e => hard i e.message

/-- A table header line at `i`. A `[` that ends the file is no header at all. -/
def readHeader (b : Building) (i : Nat) : Step Building :=
  if i + 1 ≥ s.size then hard i "invalid table header" else
  let array := isAt s (i + 1) '['
  let keyStart := if array then i + 2 else i + 1
  match readKey s keyStart with
  | .error f => .error { f with cut := true }
  | .ok (path, p) =>
    if path.length ≥ nestingLimit then hard keyStart s!"invalid table header\n{tooDeep}" else
    let close := if array then "]]" else "]"
    if !startsWith s p close then
      hard p s!"invalid table header\nexpected `.`, `{close}`"
    else
    let span := (i, p + close.length)
    match lineTrailing s (p + close.length) true with
    | .error f => .error f
    | .ok ((), k) =>
      let opened := if array then b.openArrayTable path span else b.openTable path span
      match opened with
      | .ok b => .ok (b, k)
      | .error e =>
        let msg := e.message
        hard i s!"invalid table header\n{msg}"

/-- Read a whole document: its root table. -/
def readDocument : Except Failure (List Entry) :=
  let start := if startsWith s 0 "\uFEFF" then 3 else 0
  go (s.size + 2) {} (skipWhile s isWs start)
where
  go : Nat → Building → Nat → Except Failure (List Entry)
    | 0, b, i => done b i
    | fuel + 1, b, i =>
      let next (step : Step Building) : Except Failure (List Entry) :=
        match step with
        | .error f => .error f
        | .ok (b, j) => go fuel b (skipWhile s isWs j)
      match s[i]? with
      | none => done b i
      | some c =>
        match Char.ofNat c.toNat with
        | '#' =>
          let j := skipWhile s isCommentChar (i + 1)
          match lineEnding s j with
          | some k => next (.ok (b, k))
          | none => .error ⟨j, "", true⟩
        | '[' => next (readHeader s b i)
        | '\n' => next (.ok (b, i + 1))
        | '\r' => if isAt s (i + 1) '\n' then next (.ok (b, i + 2)) else .error ⟨i, "", true⟩
        | _ => next (readKeyval s b i)
  /-- The root once the last open table is in place. -/
  done (b : Building) (i : Nat) : Except Failure (List Entry) :=
    match b.close with
    | .ok root => .ok root
    | .error e => .error ⟨i, e.message, true⟩

end Toml

end DeviceBoot
