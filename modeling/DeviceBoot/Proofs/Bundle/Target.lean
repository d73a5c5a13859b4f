import Mathlib
import DeviceBoot.Bundle.Target
import DeviceBoot.Proofs.Bundle.Parse
/-!
# Reading a bundle at a fixed word width

`Bundle.parseAt w` reads a bundle in `w`-bit words, where a plain `+`, `-` or `*` that overflows
stops the program and the bounds of each span are checked sums. On a target of 32 bits or more,
and for bundles whose length is an address, none of that arithmetic ever overflows, and the
reading decides what `Bundle.parse` decides with unbounded numbers, down to the fields of its
errors.

The record positions and the room for the records are bounded by the bundle's length, and the
checked sums fail only past it (`spanAt_of_lt`, `spanAt_of_le`). The pool cursors are the one
place an invariant is needed: each is either still zero or reaches from its pool no further than
the bundle (`Table.CursorFits`), because the iterator moves a cursor only past a span it has found
inside the bundle (`Table.tryNext_of_fits`). So a cursor sum never overflows, an out-of-bounds
offset never saturates to a value other than the exact sum, and the walk over the records is the
unbounded walk (`Table.walkFrom_eq`).

Main statements: `parseAt_eq` and `reading_on_target_never_overflows`.
-/

namespace DeviceBoot

namespace Bundle

variable {w : Nat}

theorem two_pow_32_le (hw : 32 ≤ w) : 2 ^ 32 ≤ 2 ^ w := Nat.pow_le_pow_right (by decide) hw

theorem toNat_ofNat_small (hw : 32 ≤ w) {n : Nat} (hn : n < 2 ^ 32) : (BitVec.ofNat w n).toNat = n := by
  rw [BitVec.toNat_ofNat, Nat.mod_eq_of_lt (Nat.lt_of_lt_of_le hn (two_pow_32_le hw))]

theorem ofU32_eq_ofNat (hw : 32 ≤ w) (x : UInt32) : (Machine.ofU32 x : BitVec w) = BitVec.ofNat w x.toNat :=
  BitVec.eq_of_toNat_eq (by rw [Machine.toNat_ofU32 hw, toNat_ofNat_small hw x.toNat_lt])

theorem toNat_ofNat_length {bytes : Bytes} (hlen : bytes.length < 2 ^ w) :
    (BitVec.ofNat w bytes.length).toNat = bytes.length := by
  rw [BitVec.toNat_ofNat, Nat.mod_eq_of_lt hlen]

/-- Past the header check, the header's length comes off the bundle's without underflow. -/
theorem sub_headerLen (hw : 32 ≤ w) {bytes : Bytes} (hlen : bytes.length < 2 ^ w)
    (h16 : headerLen ≤ bytes.length) :
    Machine.sub (BitVec.ofNat w bytes.length) (BitVec.ofNat w headerLen) =
      .ok (BitVec.ofNat w bytes.length - BitVec.ofNat w headerLen) :=
  Machine.sub_of_le (by rw [toNat_ofNat_length hlen, toNat_ofNat_small hw (by decide)]; exact h16)

/-- The room for length records, computed in words, is the unbounded room. -/
theorem toNat_room (hw : 32 ≤ w) {bytes : Bytes} (hlen : bytes.length < 2 ^ w)
    (h16 : headerLen ≤ bytes.length) :
    ((BitVec.ofNat w bytes.length - BitVec.ofNat w headerLen) / BitVec.ofNat w recordLen).toNat =
      (bytes.length - headerLen) / recordLen := by
  have h16w : (BitVec.ofNat w headerLen).toNat = headerLen := toNat_ofNat_small hw (by decide)
  have h8w : (BitVec.ofNat w recordLen).toNat = recordLen := toNat_ofNat_small hw (by decide)
  rw [BitVec.toNat_udiv,
    BitVec.toNat_sub_of_le (by rw [BitVec.le_def, toNat_ofNat_length hlen, h16w]; exact h16),
    toNat_ofNat_length hlen, h16w, h8w]

/-- On a bundle whose length is an address, a field is read where the unbounded reading finds it:
a field whose end does not fit a word lies past the bundle anyway. -/
theorem read32At_eq (hw : 32 ≤ w) {bytes : Bytes} (hlen : bytes.length < 2 ^ w) (pos : BitVec w) :
    read32At bytes pos = LittleEndian.read32? bytes pos.toNat := by
  have h4 : (BitVec.ofNat w 4).toNat = 4 := toNat_ofNat_small hw (by decide)
  unfold read32At LittleEndian.read32?
  by_cases hfit : pos.toNat + 4 < 2 ^ w
  · rw [Machine.checkedAdd_of_lt (by omega)]
    simp only [Option.bind_eq_bind, Option.bind_some]
    rw [BitVec.toNat_add_of_lt (by omega), h4]
  · rw [Machine.checkedAdd_of_le (by omega), if_neg (by omega)]
    rfl

/-- A span whose unbounded end lies past the limit is refused, whether one of its sums overflows
or not. -/
theorem spanAt_of_lt (hw : 32 ≤ w) {base offset limit : BitVec w} {len : UInt32}
    (h : limit.toNat < base.toNat + offset.toNat + len.toNat) : spanAt base offset len limit = none := by
  have hlen := Machine.toNat_ofU32 (w := w) hw len
  have hlimit := limit.isLt
  unfold spanAt
  by_cases hstart : base.toNat + offset.toNat < 2 ^ w
  · rw [Machine.checkedAdd_of_lt hstart]
    simp only [Option.bind_eq_bind, Option.bind_some]
    by_cases hstop : (base + offset).toNat + (Machine.ofU32 len : BitVec w).toNat < 2 ^ w
    · rw [Machine.checkedAdd_of_lt hstop]
      simp only [Option.bind_some]
      rw [if_neg]
      rw [BitVec.le_def, BitVec.toNat_add_of_lt hstop, BitVec.toNat_add_of_lt hstart, hlen]
      omega
    · rw [Machine.checkedAdd_of_le (by omega)]
      rfl
  · rw [Machine.checkedAdd_of_le (by omega)]
    rfl

/-- A span that ends within the limit is found, at its exact bounds. -/
theorem spanAt_of_le (hw : 32 ≤ w) {base offset limit : BitVec w} {len : UInt32}
    (h : base.toNat + offset.toNat + len.toNat ≤ limit.toNat) :
    spanAt base offset len limit = some (base + offset, base + offset + Machine.ofU32 len) := by
  have hlen := Machine.toNat_ofU32 (w := w) hw len
  have hlimit := limit.isLt
  have hstart : base.toNat + offset.toNat < 2 ^ w := by omega
  have hstop : (base + offset).toNat + (Machine.ofU32 len : BitVec w).toNat < 2 ^ w := by
    rw [BitVec.toNat_add_of_lt hstart, hlen]
    omega
  unfold spanAt
  rw [Machine.checkedAdd_of_lt hstart]
  simp only [Option.bind_eq_bind, Option.bind_some]
  rw [Machine.checkedAdd_of_lt hstop]
  simp only [Option.bind_some]
  rw [if_pos]
  rw [BitVec.le_def, BitVec.toNat_add_of_lt hstop, BitVec.toNat_add_of_lt hstart, hlen]
  omega

namespace Table

/-- The table read with unbounded numbers. -/
def toBundle (t : Table w) : Bundle := ⟨t.bytes, t.namePool.toNat, t.bytecodePool.toNat, t.count⟩

/-- The table a bundle read with unbounded numbers is on a target with `w`-bit addresses. -/
def ofBundle (w : Nat) (b : Bundle) : Table w :=
  ⟨b.bytes, BitVec.ofNat w b.namePool, BitVec.ofNat w b.bytecodePool, b.count⟩

/-- What a table that passed the header checks on a target of 32 bits or more satisfies: its length
is an address, its pools are 32-bit values, and every length record lies inside it. -/
structure Sound (t : Table w) : Prop where
  width : 32 ≤ w
  length : t.bytes.length < 2 ^ w
  namePool : t.namePool.toNat < 2 ^ 32
  bytecodePool : t.bytecodePool.toNat < 2 ^ 32
  room : t.toBundle.HasRoom

/-- The iterator's invariant: each pool cursor is still zero, or reaches from its pool no further
than the bundle. -/
structure CursorFits (t : Table w) (c : Cursor w) : Prop where
  name : c.nameCursor.toNat = 0 ∨ t.namePool.toNat + c.nameCursor.toNat ≤ t.bytes.length
  bytecode : c.bytecodeCursor.toNat = 0 ∨ t.bytecodePool.toNat + c.bytecodeCursor.toNat ≤ t.bytes.length

variable {t : Table w} {c : Cursor w}

@[simp] theorem toBundle_bytes : t.toBundle.bytes = t.bytes := rfl

@[simp] theorem toBundle_namePool : t.toBundle.namePool = t.namePool.toNat := rfl

@[simp] theorem toBundle_bytecodePool : t.toBundle.bytecodePool = t.bytecodePool.toNat := rfl

@[simp] theorem toBundle_count : t.toBundle.count = t.count := rfl

theorem toBundle_ofBundle {b : Bundle} (hname : b.namePool < 2 ^ w) (hcode : b.bytecodePool < 2 ^ w) :
    (ofBundle w b).toBundle = b := by
  simp [toBundle, ofBundle, Nat.mod_eq_of_lt hname, Nat.mod_eq_of_lt hcode]

theorem sound_ofBundle {b : Bundle} (hw : 32 ≤ w) (hlen : b.bytes.length < 2 ^ w)
    (hname : b.namePool < 2 ^ 32) (hcode : b.bytecodePool < 2 ^ 32) (hroom : b.HasRoom) :
    (ofBundle w b).Sound where
  width := hw
  length := hlen
  namePool := by rw [ofBundle, toNat_ofNat_small hw hname]; exact hname
  bytecodePool := by rw [ofBundle, toNat_ofNat_small hw hcode]; exact hcode
  room := by
    rwa [toBundle_ofBundle (Nat.lt_of_lt_of_le hname (two_pow_32_le hw))
      (Nat.lt_of_lt_of_le hcode (two_pow_32_le hw))]

/-- The table of the header a byte string declares keeps its pools on a target of 32 bits or
more. -/
theorem toBundle_ofBundle_header (hw : 32 ≤ w) (bytes : Bytes) :
    (ofBundle w (header bytes)).toBundle = header bytes :=
  toBundle_ofBundle (Nat.lt_of_lt_of_le (wordAt bytes 4).toNat_lt (two_pow_32_le hw))
    (Nat.lt_of_lt_of_le (wordAt bytes 8).toNat_lt (two_pow_32_le hw))

theorem sound_ofBundle_header (hw : 32 ≤ w) {bytes : Bytes} (hlen : bytes.length < 2 ^ w)
    (hroom : (header bytes).HasRoom) : (ofBundle w (header bytes)).Sound :=
  sound_ofBundle hw hlen (wordAt bytes 4).toNat_lt (wordAt bytes 8).toNat_lt hroom

theorem cursorFits_zero : t.CursorFits ⟨0, 0, 0⟩ := ⟨.inl rfl, .inl rfl⟩

theorem toNat_limit (ht : t.Sound) : t.limit.toNat = t.bytes.length :=
  toNat_ofNat_length ht.length

/-- At a cursor that fits, the saturating sum a bound error reports is the exact sum: a cursor
still at zero leaves the pool, and any other ends inside the bundle. -/
theorem toNat_saturatingAdd_of_fits (ht : t.Sound) {pool cursor : BitVec w}
    (hfit : cursor.toNat = 0 ∨ pool.toNat + cursor.toNat ≤ t.bytes.length) :
    (Machine.saturatingAdd pool cursor).toNat = pool.toNat + cursor.toNat := by
  have := ht.length
  rw [Machine.toNat_saturatingAdd]
  omega

theorem toNat_add_of_le_length (ht : t.Sound) {a b : BitVec w} (h : a.toNat + b.toNat ≤ t.bytes.length) :
    (a + b).toNat = a.toNat + b.toNat :=
  BitVec.toNat_add_of_lt (Nat.lt_of_le_of_lt h ht.length)

/-- A cursor moved by a length to a point inside the bundle is the exact sum. -/
theorem toNat_add_ofU32 (ht : t.Sound) {a : BitVec w} {len : UInt32}
    (h : a.toNat + len.toNat ≤ t.bytes.length) : (a + Machine.ofU32 len).toNat = a.toNat + len.toNat := by
  have hlen := Machine.toNat_ofU32 (w := w) ht.width len
  rw [toNat_add_of_le_length ht (by rw [hlen]; exact h), hlen]

/-- Record `index` is read where the unbounded reading finds it, with no overflow. -/
theorem lengthsAt_eq (ht : t.Sound) {index : UInt32} (hi : index.toNat < t.count.toNat) :
    t.lengthsAt index = .ok (some (t.toBundle.nameLen index.toNat, t.toBundle.codeLen index.toNat)) := by
  -- the room check puts the whole record, and so both its positions, inside the bundle
  have hend : recordAt index.toNat + 8 ≤ t.bytes.length := by
    have hroom := ht.room
    simp only [HasRoom, headerLen, recordLen, toBundle_count, toBundle_bytes] at hroom
    simp only [recordAt, headerLen, recordLen]
    have := (Nat.le_div_iff_mul_le (by decide)).mp hroom
    have : (index.toNat + 1) * 8 ≤ t.count.toNat * 8 := Nat.mul_le_mul_right 8 hi
    omega
  have hlen := ht.length
  have hidx := Machine.toNat_ofU32 ht.width index
  have h8 : (BitVec.ofNat w recordLen).toNat = 8 := toNat_ofNat_small ht.width (by decide)
  have h16 : (BitVec.ofNat w headerLen).toNat = 16 := toNat_ofNat_small ht.width (by decide)
  have h4 : (BitVec.ofNat w 4).toNat = 4 := toNat_ofNat_small ht.width (by decide)
  simp only [recordAt, headerLen, recordLen] at hend
  have hmul : (Machine.ofU32 index * BitVec.ofNat w recordLen : BitVec w).toNat = index.toNat * 8 := by
    rw [BitVec.toNat_mul, hidx, h8, Nat.mod_eq_of_lt (by omega)]
  have hpos : (BitVec.ofNat w headerLen + Machine.ofU32 index * BitVec.ofNat w recordLen : BitVec w).toNat =
      16 + index.toNat * 8 := by
    rw [BitVec.toNat_add_of_lt (by omega), h16, hmul]
  unfold lengthsAt
  rw [Machine.mul_of_lt (by rw [hidx, h8]; omega), ok_bind, Machine.add_of_lt (by rw [h16, hmul]; omega),
    ok_bind, read32At_eq ht.width hlen, hpos, read32?_of_le (by omega)]
  simp only
  rw [Machine.add_of_lt (by rw [hpos, h4]; omega), ok_bind, read32At_eq ht.width hlen,
    BitVec.toNat_add_of_lt (by rw [hpos, h4]; omega), hpos, h4, read32?_of_le (by omega)]
  rfl

/-! ## One record -/

/-- A record whose name runs past the bundle is reported at the exact name offset. -/
theorem readRecord_of_nameOverruns (ht : t.Sound) (hc : t.CursorFits c)
    (hi : c.index.toNat < t.count.toNat)
    (hname : t.bytes.length < t.namePool.toNat + c.nameCursor.toNat + (t.toBundle.nameLen c.index.toNat).toNat) :
    t.readRecord c = .ok (.error (.outOfBounds c.index (t.namePool.toNat + c.nameCursor.toNat)
      (t.toBundle.nameLen c.index.toNat)), c.nameCursor, c.bytecodeCursor) := by
  unfold readRecord
  rw [lengthsAt_eq ht hi, ok_bind]
  simp only
  rw [spanAt_of_lt ht.width (by rw [toNat_limit ht]; exact hname)]
  simp only
  rw [toNat_saturatingAdd_of_fits ht hc.name]
  rfl

/-- A record whose name fits but whose bytecode runs past the bundle is reported at the exact
bytecode offset. -/
theorem readRecord_of_codeOverruns (ht : t.Sound) (hc : t.CursorFits c)
    (hi : c.index.toNat < t.count.toNat)
    (hname : t.namePool.toNat + c.nameCursor.toNat + (t.toBundle.nameLen c.index.toNat).toNat ≤ t.bytes.length)
    (hcode : t.bytes.length <
      t.bytecodePool.toNat + c.bytecodeCursor.toNat + (t.toBundle.codeLen c.index.toNat).toNat) :
    t.readRecord c = .ok (.error (.outOfBounds c.index (t.bytecodePool.toNat + c.bytecodeCursor.toNat)
      (t.toBundle.codeLen c.index.toNat)), c.nameCursor, c.bytecodeCursor) := by
  unfold readRecord
  rw [lengthsAt_eq ht hi, ok_bind]
  simp only
  rw [spanAt_of_le ht.width (by rw [toNat_limit ht]; exact hname)]
  simp only
  rw [spanAt_of_lt ht.width (by rw [toNat_limit ht]; exact hcode)]
  simp only
  rw [toNat_saturatingAdd_of_fits ht hc.bytecode]
  rfl

/-- A record whose name and bytecode both fit yields the module the unbounded reading slices, and
moves each cursor past its span without overflow. -/
theorem readRecord_of_fits (ht : t.Sound) (hi : c.index.toNat < t.count.toNat)
    (hname : t.namePool.toNat + c.nameCursor.toNat + (t.toBundle.nameLen c.index.toNat).toNat ≤ t.bytes.length)
    (hcode : t.bytecodePool.toNat + c.bytecodeCursor.toNat + (t.toBundle.codeLen c.index.toNat).toNat ≤
      t.bytes.length) :
    t.readRecord c = .ok (.ok ⟨t.toBundle.slice (t.namePool.toNat + c.nameCursor.toNat)
        (t.toBundle.nameLen c.index.toNat).toNat,
      t.toBundle.slice (t.bytecodePool.toNat + c.bytecodeCursor.toNat) (t.toBundle.codeLen c.index.toNat).toNat⟩,
      c.nameCursor + Machine.ofU32 (t.toBundle.nameLen c.index.toNat),
      c.bytecodeCursor + Machine.ofU32 (t.toBundle.codeLen c.index.toNat)) := by
  have hns : (t.namePool + c.nameCursor).toNat = t.namePool.toNat + c.nameCursor.toNat :=
    toNat_add_of_le_length ht (by omega)
  have hne : (t.namePool + c.nameCursor + Machine.ofU32 (t.toBundle.nameLen c.index.toNat)).toNat =
      t.namePool.toNat + c.nameCursor.toNat + (t.toBundle.nameLen c.index.toNat).toNat := by
    rw [toNat_add_ofU32 ht (by rw [hns]; exact hname), hns]
  have hcs : (t.bytecodePool + c.bytecodeCursor).toNat = t.bytecodePool.toNat + c.bytecodeCursor.toNat :=
    toNat_add_of_le_length ht (by omega)
  have hce : (t.bytecodePool + c.bytecodeCursor + Machine.ofU32 (t.toBundle.codeLen c.index.toNat)).toNat =
      t.bytecodePool.toNat + c.bytecodeCursor.toNat + (t.toBundle.codeLen c.index.toNat).toNat := by
    rw [toNat_add_ofU32 ht (by rw [hcs]; exact hcode), hcs]
  have hlen := ht.length
  have hnl := Machine.toNat_ofU32 (w := w) ht.width (t.toBundle.nameLen c.index.toNat)
  have hcl := Machine.toNat_ofU32 (w := w) ht.width (t.toBundle.codeLen c.index.toNat)
  unfold readRecord
  rw [lengthsAt_eq ht hi, ok_bind]
  simp only
  rw [spanAt_of_le ht.width (by rw [toNat_limit ht]; exact hname)]
  simp only
  rw [spanAt_of_le ht.width (by rw [toNat_limit ht]; exact hcode)]
  simp only
  rw [Machine.add_of_lt (by rw [hnl]; omega), ok_bind, Machine.add_of_lt (by rw [hcl]; omega), ok_bind]
  simp only [hns, hne, hcs, hce, Nat.add_sub_cancel_left]
  rfl

/-! ## One step of the iterator, and the whole walk -/

/-- The index moves on by one below the count: the count is a 32-bit number. -/
theorem toNat_index_succ (hi : c.index.toNat < t.count.toNat) : (c.index + 1).toNat = c.index.toNat + 1 := by
  have := t.count.toNat_lt
  rw [UInt32.toNat_add, UInt32.toNat_one]
  omega

theorem tryNext_of_le (h : t.count.toNat ≤ c.index.toNat) : t.tryNext c = .ok (none, c) := by
  rw [tryNext, if_pos (UInt32.le_iff_toNat_le.mpr h)]
  rfl

theorem tryNext_of_lt (hi : c.index.toNat < t.count.toNat) :
    t.tryNext c = (fun r => (some r.1, ⟨c.index + 1, r.2.1, r.2.2⟩)) <$> t.readRecord c := by
  have hcount := t.count.toNat_lt
  have hnext : Machine.add c.index.toBitVec 1 = .ok (c.index.toBitVec + 1) :=
    Machine.add_of_lt (by simp; omega)
  rw [tryNext, if_neg (by rw [UInt32.le_iff_toNat_le]; omega), hnext, ok_bind]
  cases t.readRecord c <;> rfl

/-- **The step keeps the invariant.** From a cursor that fits, a step of the iterator never
overflows, and the cursor it leaves fits again: either it did not move, or it moved past a span
that ends inside the bundle. -/
theorem tryNext_of_fits (ht : t.Sound) (hc : t.CursorFits c) :
    ∃ r c', t.tryNext c = .ok (r, c') ∧ t.CursorFits c' := by
  by_cases hi : t.count.toNat ≤ c.index.toNat
  · exact ⟨none, c, tryNext_of_le hi, hc⟩
  rw [Nat.not_le] at hi
  rw [tryNext_of_lt hi]
  by_cases hname : t.bytes.length <
      t.namePool.toNat + c.nameCursor.toNat + (t.toBundle.nameLen c.index.toNat).toNat
  · rw [readRecord_of_nameOverruns ht hc hi hname]
    exact ⟨_, _, rfl, hc.name, hc.bytecode⟩
  by_cases hcode : t.bytes.length <
      t.bytecodePool.toNat + c.bytecodeCursor.toNat + (t.toBundle.codeLen c.index.toNat).toNat
  · rw [readRecord_of_codeOverruns ht hc hi (by omega) hcode]
    exact ⟨_, _, rfl, hc.name, hc.bytecode⟩
  rw [readRecord_of_fits ht hi (by omega) (by omega)]
  refine ⟨_, _, rfl, .inr ?_, .inr ?_⟩
  · show t.namePool.toNat + (c.nameCursor + Machine.ofU32 _).toNat ≤ t.bytes.length
    rw [toNat_add_ofU32 ht (by omega)]
    omega
  · show t.bytecodePool.toNat + (c.bytecodeCursor + Machine.ofU32 _).toNat ≤ t.bytes.length
    rw [toNat_add_ofU32 ht (by omega)]
    omega

theorem walkFrom_eq_bind : t.walkFrom c = t.tryNext c >>= fun s =>
    match s.1 with
    | none => .ok ([], none)
    | some (.error e) => .ok ([], some e)
    | some (.ok m) => (fun rest => (m :: rest.1, rest.2)) <$> t.walkFrom s.2 := by
  rw [walkFrom]
  split <;> (rename_i h; rw [h]; rfl)

/-- **The walk is the unbounded walk.** From a cursor that fits, the iterator yields the modules
and the error that the unbounded walk from the same record and pool positions does, with no
overflow. The induction runs over the records left, `n`, and carries `CursorFits`. -/
theorem walkFrom_eq (ht : t.Sound) (n : Nat) : ∀ c : Cursor w, t.count.toNat - c.index.toNat = n →
    t.CursorFits c →
    t.walkFrom c = .ok (t.toBundle.walk c.index.toNat c.nameCursor.toNat c.bytecodeCursor.toNat) := by
  induction n with
  | zero =>
    intro c hn _
    have hge : t.count.toNat ≤ c.index.toNat := by omega
    rw [walkFrom_eq_bind, tryNext_of_le hge, walk_of_ge (by simpa using hge)]
    rfl
  | succ n ih =>
    intro c hn hc
    have hi : c.index.toNat < t.count.toNat := by omega
    have hi' : c.index.toNat < t.toBundle.count.toNat := hi
    rw [walkFrom_eq_bind, tryNext_of_lt hi, walk, if_pos hi', lengths_eq ht.room hi']
    simp only [toBundle_namePool, toBundle_bytecodePool, toBundle_bytes, gt_iff_lt]
    -- the three outcomes of the record, in the order both readings test them
    by_cases hname : t.bytes.length <
        t.namePool.toNat + c.nameCursor.toNat + (t.toBundle.nameLen c.index.toNat).toNat
    · rw [readRecord_of_nameOverruns ht hc hi hname, if_pos hname, UInt32.ofNat_toNat]
      rfl
    by_cases hcode : t.bytes.length <
        t.bytecodePool.toNat + c.bytecodeCursor.toNat + (t.toBundle.codeLen c.index.toNat).toNat
    · rw [readRecord_of_codeOverruns ht hc hi (by omega) hcode, if_neg hname, if_pos hcode,
        UInt32.ofNat_toNat]
      rfl
    have hna : (c.nameCursor + Machine.ofU32 (t.toBundle.nameLen c.index.toNat)).toNat =
        c.nameCursor.toNat + (t.toBundle.nameLen c.index.toNat).toNat := toNat_add_ofU32 ht (by omega)
    have hca : (c.bytecodeCursor + Machine.ofU32 (t.toBundle.codeLen c.index.toNat)).toNat =
        c.bytecodeCursor.toNat + (t.toBundle.codeLen c.index.toNat).toNat := toNat_add_ofU32 ht (by omega)
    have hidx := toNat_index_succ hi
    rw [readRecord_of_fits ht hi (by omega) (by omega), if_neg hname, if_neg hcode]
    have hrest := ih ⟨c.index + 1, c.nameCursor + Machine.ofU32 (t.toBundle.nameLen c.index.toNat),
      c.bytecodeCursor + Machine.ofU32 (t.toBundle.codeLen c.index.toNat)⟩ (by simp only; omega)
      ⟨.inr (by simp only; omega), .inr (by simp only; omega)⟩
    simp only [hidx, hna, hca] at hrest
    show (fun rest => (_, rest.2)) <$> t.walkFrom _ = _
    rw [hrest]
    rfl

/-- A sound table yields the modules of the unbounded reading. -/
theorem modules_eq_of_sound (ht : t.Sound) : t.modules = .ok t.toBundle.modules := by
  rw [modules, walkFrom_eq ht _ ⟨0, 0, 0⟩ rfl cursorFits_zero]
  rfl

end Table

/-! ## The whole reading -/

/-- **Reading on the target is the unbounded reading.** On a target of 32 bits or more, a bundle
whose length is an address is read without any overflow, to the verdict `parse` gives, the table
carrying the same pools. -/
theorem parseAt_eq (hw : 32 ≤ w) {bytes : Bytes} (hlen : bytes.length < 2 ^ w) :
    parseAt w bytes = .ok ((parse bytes).map (Table.ofBundle w)) := by
  have h0 : (0 : BitVec w).toNat = 0 := BitVec.toNat_zero
  have h4 : (4 : BitVec w).toNat = 4 := toNat_ofNat_small hw (by decide)
  have h8 : (8 : BitVec w).toNat = 8 := toNat_ofNat_small hw (by decide)
  have h12 : (12 : BitVec w).toNat = 12 := toNat_ofNat_small hw (by decide)
  rw [parse_eq_check, parseAt]
  simp only [read32At_eq hw hlen, h0, h4, h8, h12]
  -- the header checks, in the order of `check`
  by_cases hshort : bytes.length < 4
  · rw [read32?_of_lt (by omega)]
    simp [check, hshort]
    rfl
  rw [read32?_of_le (by omega)]
  by_cases hmagic : wordAt bytes 0 ≠ bundleMagic
  · simp [check, hshort, hmagic]
    rfl
  rw [Decidable.not_not] at hmagic
  by_cases h16 : bytes.length < headerLen
  · simp [check, hshort, hmagic, h16]
    rfl
  have h16' : 16 ≤ bytes.length := by simp only [headerLen] at h16; omega
  rw [read32?_of_le (by omega), read32?_of_le (by omega), read32?_of_le (by omega)]
  simp only [check, if_neg hshort, hmagic, ne_eq, not_true_eq_false, if_false, if_neg h16, gt_iff_lt]
  rw [sub_headerLen hw hlen (Nat.not_lt.mp h16), ok_bind]
  have hroom := toNat_room hw hlen (Nat.not_lt.mp h16)
  by_cases htoo : (bytes.length - headerLen) / recordLen < (wordAt bytes 12).toNat
  · rw [if_pos (by rw [BitVec.lt_def, hroom, Machine.toNat_ofU32 hw]; exact htoo), if_pos htoo, hroom]
    rfl
  rw [if_neg (by rw [BitVec.lt_def, hroom, Machine.toNat_ofU32 hw]; exact htoo), if_neg htoo]
  -- the walk over the records, from the table of the unbounded header
  have hroomB : (header bytes).HasRoom := Nat.not_lt.mp htoo
  have htable : (⟨bytes, Machine.ofU32 (wordAt bytes 4), Machine.ofU32 (wordAt bytes 8), wordAt bytes 12⟩ :
      Table w) = Table.ofBundle w (header bytes) := by
    simp only [Table.ofBundle, header, ofU32_eq_ofNat hw]
  rw [htable, Table.walkFrom_eq (Table.sound_ofBundle_header hw hlen hroomB) _ ⟨0, 0, 0⟩ rfl
    Table.cursorFits_zero, Table.toBundle_ofBundle_header hw]
  simp only [UInt32.toNat_zero, h0, ok_bind]
  rw [walk_error_eq hroomB]
  cases (header bytes).firstOverrun <;> rfl

/-- The first record that overruns starts its span at its pool when it is the first record, and
otherwise where the module before it, which fits, ends. -/
theorem overrunError_offset_le {b : Bundle} {i : Nat} (hfirst : b.firstOverrun = some i)
    {k : UInt32} {off : Nat} {l : UInt32} (h : b.overrunError i = .outOfBounds k off l) :
    off ≤ max (max b.namePool b.bytecodePool) b.bytes.length := by
  rw [firstOverrun, List.find?_range_eq_some] at hfirst
  obtain ⟨-, -, hbefore⟩ := hfirst
  unfold overrunError at h
  cases i with
  | zero =>
    split at h <;> (cases h; simp [nameStart, codeStart])
  | succ j =>
    have hfit := overruns_eq_false_iff.mp (by simpa using hbefore j (by omega))
    have hname := namesBefore_succ (b := b) j
    have hcode := codeBefore_succ (b := b) j
    simp only [nameStart, codeStart] at hfit
    split at h <;> (cases h; simp only [nameStart, codeStart]; omega)

/-- An out-of-bounds offset is a 32-bit pool offset or lies inside the bundle. -/
theorem offset_le_of_parse {bytes : Bytes} {k : UInt32} {off : Nat} {l : UInt32}
    (h : parse bytes = .error (.outOfBounds k off l)) : off ≤ max (2 ^ 32 - 1) bytes.length := by
  rw [parse_eq_check] at h
  unfold check at h
  have hname := (wordAt bytes 4).toNat_lt
  have hcode := (wordAt bytes 8).toNat_lt
  -- the header checks fail with other errors
  split_ifs at h
  · cases h
  · cases h
  · cases h
  · cases h
  split at h
  · rename_i i hfirst
    have hle := overrunError_offset_le hfirst (Except.error.inj h)
    simp only [header] at hle
    omega
  · cases h

/-- **A bundle read on the device or on the host never overflows.** With addresses of 32 or 64
bits and a bundle shorter than half the address space, the target's reading makes no plain
operation overflow and decides what `parse` decides, each error with its index, offset and length;
a parsed bundle yields the same modules. A checked span fails exactly when its unbounded end lies
past the bundle; each step of the iterator from cursors that fit leaves cursors that fit; and an
out-of-bounds offset is a 32-bit pool offset or lies inside the bundle, so saturating it changes
nothing, and at 64 bits it stays below the largest address. -/
theorem reading_on_target_never_overflows (w : Nat) (hw : w = 32 ∨ w = 64) (bytes : Bytes)
    (hlen : bytes.length < 2 ^ (w - 1)) :
    parseAt w bytes = .ok ((parse bytes).map (Table.ofBundle w)) ∧
    (∀ b, parse bytes = .ok b → (Table.ofBundle w b).modules = .ok b.modules) ∧
    (∀ (base offset : BitVec w) (len : UInt32),
      spanAt base offset len (BitVec.ofNat w bytes.length) = none ↔
        bytes.length < base.toNat + offset.toNat + len.toNat) ∧
    (∀ t : Table w, t.Sound → ∀ c, t.CursorFits c →
      ∃ r c', t.tryNext c = .ok (r, c') ∧ t.CursorFits c') ∧
    (∀ k off l, parse bytes = .error (.outOfBounds k off l) →
      off ≤ max (2 ^ 32 - 1) bytes.length ∧ min off (2 ^ w - 1) = off ∧ (w = 64 → off < 2 ^ w - 1)) := by
  have hw32 : 32 ≤ w := by omega
  have hlenw : bytes.length < 2 ^ w :=
    Nat.lt_of_lt_of_le hlen (Nat.pow_le_pow_right (by decide) (Nat.sub_le w 1))
  have hlimit : (BitVec.ofNat w bytes.length).toNat = bytes.length := toNat_ofNat_length hlenw
  refine ⟨parseAt_eq hw32 hlenw, fun b hb => ?_, fun base offset len => ?_,
    fun t ht c hc => Table.tryNext_of_fits ht hc, fun k off l h => ?_⟩
  · obtain ⟨⟨-, -, hroom, -⟩, rfl⟩ := (parse_eq_ok_iff bytes b).mp hb
    rw [Table.modules_eq_of_sound (Table.sound_ofBundle_header hw32 hlenw hroom),
      Table.toBundle_ofBundle_header hw32]
  · constructor
    · intro hnone
      by_contra hle
      rw [spanAt_of_le hw32 (by rw [hlimit]; omega)] at hnone
      cases hnone
    · intro hlt
      exact spanAt_of_lt hw32 (by rw [hlimit]; exact hlt)
  · have hoff := offset_le_of_parse h
    have h32 := two_pow_32_le hw32
    refine ⟨hoff, by omega, ?_⟩
    intro h64
    subst h64
    have hhalf : (2 : Nat) ^ (64 - 1) + 1 < 2 ^ 64 := by norm_num
    omega

/-- The library's bundle with its name pool moved to five bytes below the top of the 32-bit
address space. -/
def poolNearLimit : Bytes :=
  [bundleMagic, 0xFFFFFFFB, 27, 1, 3, 8].flatMap LittleEndian.word32 ++
    [0x61, 0x70, 0x70, 0x61, 0x70, 0x70, 0x20, 0x63, 0x6f, 0x64, 0x65]

/-- On the device, the name that would end past the 32-bit address space is reported at its pool
offset, with no overflow. -/
theorem pool_near_limit_on_device :
    (32 = 32 ∨ 32 = 64) ∧ poolNearLimit.length < 2 ^ (32 - 1) ∧
      parseAt 32 poolNearLimit = .ok (.error (.outOfBounds 0 0xFFFFFFFB 3)) := by
  have hread := (reading_on_target_never_overflows 32 (Or.inl rfl) poolNearLimit (by decide)).1
  have hparse : parse poolNearLimit = .error (.outOfBounds 0 0xFFFFFFFB 3) := by
    rw [parse_eq_check]
    rfl
  refine ⟨Or.inl rfl, by decide, ?_⟩
  rw [hread, hparse]
  rfl

end Bundle

end DeviceBoot
