import DeviceBoot.Bundle.Table
import DeviceBoot.Word.Machine
/-!
# Reading a bundle on a target

`Bundle.parse` reads a bundle with unbounded numbers. On a target whose addresses have `w` bits
the same reading is done in address-sized words (`BitVec w`), and each step's arithmetic is one of
three kinds: the bounds of a field and of a module's span are sums checked for overflow
(`Machine.checkedAdd`), the offset an out-of-bounds error reports is a saturating sum, and
everything else is plain arithmetic that stops the program when it overflows (`Overflow`): the
room left after the header, the position of a length record, the record index and the two pool
cursors.

The module iterator keeps a cursor into each pool (`Cursor`); `Table.tryNext` is one step of
it, and `Table.walkFrom` takes steps until one yields nothing or an error. `Bundle.parseAt` makes
the checks of `parse`, in its order, and then walks every record; `Table.modules` is what the
iterator yields. Its users step it with `Table.next`, which reads a rejected record as the end.

Main definitions: `Bundle.parseAt`, `Bundle.Table.tryNext`, `Bundle.Table.next` and
`Bundle.Table.walkFrom`.
-/

namespace DeviceBoot

namespace Bundle

/-- A bundle whose header has been read on a target with `w`-bit addresses: the bytes, the two
pool offsets as addresses, and the count. -/
structure Table (w : Nat) where
  bytes : Bytes
  namePool : BitVec w
  bytecodePool : BitVec w
  count : UInt32
  deriving DecidableEq, Repr

/-- Where the module iterator stands: the next record, and how far into each pool the modules
yielded so far reach. -/
structure Cursor (w : Nat) where
  index : UInt32
  nameCursor : BitVec w
  bytecodeCursor : BitVec w
  deriving DecidableEq, Repr

variable {w : Nat}

/-- The 32-bit field at `pos`, if its end is an address and lies inside the bytes. -/
def read32At (bytes : Bytes) (pos : BitVec w) : Option UInt32 := do
  let stop ← Machine.checkedAdd pos (BitVec.ofNat w 4)
  if stop.toNat ≤ bytes.length then some (LittleEndian.ofWord32 ((bytes.drop pos.toNat).take 4))
  else none

/-- The span `[base + offset, base + offset + len)`, if both sums are addresses and it ends
within `limit`. -/
def spanAt (base offset : BitVec w) (len : UInt32) (limit : BitVec w) :
    Option (BitVec w × BitVec w) := do
  let start ← Machine.checkedAdd base offset
  let stop ← Machine.checkedAdd start (Machine.ofU32 len)
  if stop ≤ limit then some (start, stop) else none

namespace Table

/-- The bundle's length as an address. -/
def limit (t : Table w) : BitVec w := BitVec.ofNat w t.bytes.length

/-- The name and bytecode lengths of record `index`, if the record lies inside the bytes. The
record's position is plain arithmetic, and the bytecode length's position is computed only once
the name length has been read. -/
def lengthsAt (t : Table w) (index : UInt32) : Except Overflow (Option (UInt32 × UInt32)) := do
  let offset ← Machine.mul (Machine.ofU32 index) (BitVec.ofNat w recordLen)
  let pos ← Machine.add (BitVec.ofNat w headerLen) offset
  match read32At t.bytes pos with
  | none => pure none
  | some nameLen =>
    let codePos ← Machine.add pos (BitVec.ofNat w 4)
    pure ((read32At t.bytes codePos).map fun codeLen => (nameLen, codeLen))

/-- Read the record the cursor is at: its module, or the error that rejects it, and the pool
cursors past the module. A record that is cut short or whose name or bytecode overruns the bundle
leaves the cursors where they were. -/
def readRecord (t : Table w) (c : Cursor w) :
    Except Overflow (Except TableError BundleModule × BitVec w × BitVec w) := do
  match ← t.lengthsAt c.index with
  | none => pure (.error (.truncated t.bytes.length), c.nameCursor, c.bytecodeCursor)
  | some (nameLen, codeLen) =>
    let outOfBounds (base cursor : BitVec w) (len : UInt32) : TableError :=
      .outOfBounds c.index (Machine.saturatingAdd base cursor).toNat len
    match spanAt t.namePool c.nameCursor nameLen t.limit with
    | none => pure (.error (outOfBounds t.namePool c.nameCursor nameLen), c.nameCursor, c.bytecodeCursor)
    | some (nameStart, nameStop) =>
      match spanAt t.bytecodePool c.bytecodeCursor codeLen t.limit with
      | none =>
        pure (.error (outOfBounds t.bytecodePool c.bytecodeCursor codeLen), c.nameCursor,
          c.bytecodeCursor)
      | some (codeStart, codeStop) =>
        let nameCursor ← Machine.add c.nameCursor (Machine.ofU32 nameLen)
        let bytecodeCursor ← Machine.add c.bytecodeCursor (Machine.ofU32 codeLen)
        let m : BundleModule :=
          ⟨(t.bytes.drop nameStart.toNat).take (nameStop.toNat - nameStart.toNat),
           (t.bytes.drop codeStart.toNat).take (codeStop.toNat - codeStart.toNat)⟩
        pure (.ok m, nameCursor, bytecodeCursor)

/-- One step of the module iterator: nothing past the last record; otherwise the index moves on
and the record is read. -/
def tryNext (t : Table w) (c : Cursor w) :
    Except Overflow (Option (Except TableError BundleModule) × Cursor w) :=
  if t.count ≤ c.index then pure (none, c)
  else do
    let next ← Machine.add c.index.toBitVec 1
    let (r, nameCursor, bytecodeCursor) ← t.readRecord c
    pure (some r, ⟨UInt32.ofBitVec next, nameCursor, bytecodeCursor⟩)

/-- A step that yields something was at a record before the count, and moves the index on by
one. -/
theorem index_of_tryNext {t : Table w} {c c' : Cursor w} {r : Except TableError BundleModule}
    (h : t.tryNext c = .ok (some r, c')) : c.index.toNat < t.count.toNat ∧
      c'.index.toNat = c.index.toNat + 1 := by
  unfold tryNext at h
  split at h
  · cases h
  · rename_i hlt
    have hcount := t.count.toNat_lt
    have hlt' : c.index.toNat < t.count.toNat := by
      rw [UInt32.le_iff_toNat_le] at hlt
      omega
    have hnext : Machine.add c.index.toBitVec 1 = .ok (c.index.toBitVec + 1) :=
      Machine.add_of_lt (by simp; omega)
    rw [hnext] at h
    cases hr : t.readRecord c with
    | error e => rw [hr] at h; cases h
    | ok v =>
      rw [hr] at h
      obtain ⟨r', nameCursor, bytecodeCursor⟩ := v
      cases h
      refine ⟨hlt', ?_⟩
      show (c.index.toBitVec + 1).toNat = c.index.toNat + 1
      rw [BitVec.toNat_add_of_lt (by simp; omega)]
      simp

/-- Steps of the iterator from `c` on, up to the first that yields nothing or an error: the
modules yielded, and that error. -/
def walkFrom (t : Table w) (c : Cursor w) : Except Overflow (List BundleModule × Option TableError) :=
  match _hstep : t.tryNext c with
  | .error e => .error e
  | .ok (none, _) => .ok ([], none)
  | .ok (some (.error e), _) => .ok ([], some e)
  | .ok (some (.ok m), c') => (fun rest => (m :: rest.1, rest.2)) <$> t.walkFrom c'
termination_by t.count.toNat - c.index.toNat
decreasing_by
  have := index_of_tryNext _hstep
  omega

/-- The modules the iterator yields, in order. -/
def modules (t : Table w) : Except Overflow (List BundleModule) :=
  (·.1) <$> t.walkFrom ⟨0, 0, 0⟩

/-- The iterator's step as its users see it: the module a step yields, and nothing both past the
last record and at a rejected record, whose error is dropped. -/
def next (t : Table w) (c : Cursor w) : Except Overflow (Option BundleModule × Cursor w) := do
  let (r, c') ← t.tryNext c
  pure (r.bind Except.toOption, c')

end Table

/-- Read a bundle on a target with `w`-bit addresses: the checks of `parse`, in its order, then a
walk over every record. The answer is `.error` when a plain operation overflows, and otherwise
the verdict. -/
def parseAt (w : Nat) (bytes : Bytes) : Except Overflow (Except TableError (Table w)) := do
  let truncated : TableError := .truncated bytes.length
  match read32At (w := w) bytes 0 with
  | none => return .error truncated
  | some magic =>
    if magic ≠ bundleMagic then return .error (.badMagic bundleMagic magic)
    if bytes.length < headerLen then return .error truncated
    match read32At (w := w) bytes 4, read32At (w := w) bytes 8, read32At (w := w) bytes 12 with
    | some namePool, some bytecodePool, some count =>
      let room := (← Machine.sub (BitVec.ofNat w bytes.length) (BitVec.ofNat w headerLen)) /
        BitVec.ofNat w recordLen
      if room < Machine.ofU32 count then return .error (.tooManyModules count room.toNat)
      let t : Table w := ⟨bytes, Machine.ofU32 namePool, Machine.ofU32 bytecodePool, count⟩
      match (← t.walkFrom ⟨0, 0, 0⟩).2 with
      | some e => return .error e
      | none => return .ok t
    | _, _, _ => return .error truncated

end Bundle

end DeviceBoot
