import Mathlib
import DeviceBoot.Proofs.Bundle.Target
/-!
# The module iterator's cursors

The module iterator of a bundle read on a target (`Table.tryNext`) keeps the index of the next
record and a cursor into each pool, and moves them one record at a time. Where it stands after `i`
records that each yielded a module is its invariant (`Table.Walked`): at index `i`, each cursor at
the sum of the lengths of the records before `i`, and, once a record has been read, each cursor
ending inside the bundle. One step from there is read off the layout (`tryNext_of_walked`):
nothing past the count, the record's error if it overruns the bundle, and otherwise its module,
with the cursors moved past it (`Walked.past`). Steps that each yield a module (`Table.Yields`)
keep the invariant, by induction on the steps (`Yields.walked`).

Every length record before the count lies inside the bundle, so the branch of a step for a record
cut short is never taken, from any cursor. On a table that parsing returned every record fits, so
no step yields an error, and the iterator's users, who read an error as the end, see exactly
`count` modules and then the end (`nextN_of_walked`).

Main statement: `module_iterator_cursors`.
-/

namespace DeviceBoot

namespace Bundle

namespace Table

variable {w : Nat}

/-- `n` calls of the iterator's `next` from `c`, one after another: what each answered, and where
the iterator then stands. -/
def nextN (t : Table w) : Nat → Cursor w → Except Overflow (List (Option BundleModule) × Cursor w)
  | 0, c => pure ([], c)
  | n + 1, c => do
    let (x, c') ← t.next c
    let (xs, c'') ← t.nextN n c'
    pure (x :: xs, c'')

/-- The iterator goes from `c` to `c'` by steps that each yield a module, and yields `ms`. -/
inductive Yields (t : Table w) : Cursor w → List BundleModule → Cursor w → Prop
  /-- No step. -/
  | done (c : Cursor w) : Yields t c [] c
  /-- A step that yields module `m`, then the rest. -/
  | step {c c' c'' : Cursor w} {m : BundleModule} {ms : List BundleModule} :
      t.tryNext c = .ok (some (.ok m), c') → Yields t c' ms c'' → Yields t c (m :: ms) c''

/-- The iterator after `i` records that each yielded a module: the index is `i`, each pool cursor
is the sum of the lengths of the records before `i`, and once a record has been read each cursor
ends inside the bundle. -/
structure Walked (t : Table w) (c : Cursor w) (i : Nat) : Prop where
  index : c.index.toNat = i
  name : c.nameCursor.toNat = t.toBundle.namesBefore i
  bytecode : c.bytecodeCursor.toNat = t.toBundle.codeBefore i
  inside : 0 < i → t.namePool.toNat + c.nameCursor.toNat ≤ t.bytes.length ∧
    t.bytecodePool.toNat + c.bytecodeCursor.toNat ≤ t.bytes.length

variable {t : Table w} {c : Cursor w} {i : Nat}

/-- The iterator as `modules` starts it is at the first record. -/
theorem walked_start : t.Walked ⟨0, 0, 0⟩ 0 where
  index := rfl
  name := by simp
  bytecode := by simp
  inside := by simp

/-- A walked cursor fits: it is still at zero, or it ends inside the bundle. -/
theorem Walked.cursorFits (hc : t.Walked c i) : t.CursorFits c := by
  rcases Nat.eq_zero_or_pos i with rfl | hi
  · exact ⟨.inl (by rw [hc.name]; rfl), .inl (by rw [hc.bytecode]; rfl)⟩
  · exact ⟨.inr (hc.inside hi).1, .inr (hc.inside hi).2⟩

/-! ## One step -/

/-- **One step from record `i`.** Past the count the iterator yields nothing and stays; at a record
that overruns the bundle it yields that record's error and moves only its index; at a record that
fits it yields the module the layout places there and moves both cursors past it. -/
theorem tryNext_of_walked (ht : t.Sound) (hc : t.Walked c i) :
    t.tryNext c =
      if t.count.toNat ≤ i then .ok (none, c)
      else if t.toBundle.overruns i then
        .ok (some (.error (t.toBundle.overrunError i)), ⟨c.index + 1, c.nameCursor, c.bytecodeCursor⟩)
      else
        .ok (some (.ok (t.toBundle.moduleAt i)), ⟨c.index + 1,
          c.nameCursor + Machine.ofU32 (t.toBundle.nameLen i),
          c.bytecodeCursor + Machine.ofU32 (t.toBundle.codeLen i)⟩) := by
  have hfits := hc.cursorFits
  obtain ⟨hidx, hname, hcode, -⟩ := hc
  subst hidx
  by_cases hend : t.count.toNat ≤ c.index.toNat
  · rw [if_pos hend, tryNext_of_le hend]
  have hi : c.index.toNat < t.count.toNat := Nat.lt_of_not_le hend
  rw [if_neg hend, tryNext_of_lt hi]
  -- the layout's tests, spelled with the cursors, are the ones the record's reading makes
  simp only [overruns, nameOverruns, codeOverruns, nameStart, codeStart, overrunError, ← hname, ← hcode,
    toBundle_namePool, toBundle_bytecodePool, toBundle_bytes, UInt32.ofNat_toNat, Bool.or_eq_true,
    decide_eq_true_eq]
  by_cases hn : t.bytes.length < t.namePool.toNat + c.nameCursor.toNat + (t.toBundle.nameLen c.index.toNat).toNat
  · rw [readRecord_of_nameOverruns ht hfits hi hn, if_pos (.inl hn), if_pos hn]
    rfl
  by_cases hb : t.bytes.length <
      t.bytecodePool.toNat + c.bytecodeCursor.toNat + (t.toBundle.codeLen c.index.toNat).toNat
  · rw [readRecord_of_codeOverruns ht hfits hi (Nat.le_of_not_lt hn) hb, if_pos (.inr hb), if_neg hn]
    rfl
  rw [readRecord_of_fits ht hi (Nat.le_of_not_lt hn) (Nat.le_of_not_lt hb), if_neg (by omega), moduleAt_eq,
    ← hname, ← hcode]
  rfl

/-- **The step keeps the invariant.** Past a record before the count that fits, the iterator is at
the next record, each cursor moved by the record's length to a point inside the bundle. -/
theorem Walked.past (ht : t.Sound) (hc : t.Walked c i) (hi : i < t.count.toNat)
    (hfit : t.toBundle.overruns i = false) :
    t.Walked ⟨c.index + 1, c.nameCursor + Machine.ofU32 (t.toBundle.nameLen i),
      c.bytecodeCursor + Machine.ofU32 (t.toBundle.codeLen i)⟩ (i + 1) := by
  obtain ⟨hname, hcode⟩ := overruns_eq_false_iff.mp hfit
  simp only [nameStart, codeStart, toBundle_namePool, toBundle_bytecodePool, toBundle_bytes] at hname hcode
  have hn : (c.nameCursor + Machine.ofU32 (t.toBundle.nameLen i)).toNat =
      c.nameCursor.toNat + (t.toBundle.nameLen i).toNat := toNat_add_ofU32 ht (by rw [hc.name]; omega)
  have hb : (c.bytecodeCursor + Machine.ofU32 (t.toBundle.codeLen i)).toNat =
      c.bytecodeCursor.toNat + (t.toBundle.codeLen i).toNat := toNat_add_ofU32 ht (by rw [hc.bytecode]; omega)
  refine ⟨?_, ?_, ?_, fun _ => ⟨?_, ?_⟩⟩
  · rw [toNat_index_succ (by rw [hc.index]; exact hi), hc.index]
  · simp only [hn, hc.name, namesBefore_succ]
  · simp only [hb, hc.bytecode, codeBefore_succ]
  · simp only [hn, hc.name]; omega
  · simp only [hb, hc.bytecode]; omega

/-- **What a step that yields a module did.** From record `i`, a step that yields a module was at a
record before the count that fits, yielded the module the layout places there, and left the
iterator at record `i + 1`. -/
theorem Walked.of_tryNext (ht : t.Sound) (hc : t.Walked c i) {m : BundleModule} {c' : Cursor w}
    (h : t.tryNext c = .ok (some (.ok m), c')) :
    i < t.count.toNat ∧ t.toBundle.overruns i = false ∧ m = t.toBundle.moduleAt i ∧ t.Walked c' (i + 1) := by
  rw [tryNext_of_walked ht hc] at h
  by_cases hend : t.count.toNat ≤ i
  · rw [if_pos hend] at h
    cases h
  rw [if_neg hend] at h
  cases hov : t.toBundle.overruns i with
  | true => rw [if_pos hov] at h; cases h
  | false =>
    rw [if_neg (by simp [hov])] at h
    cases h
    exact ⟨Nat.lt_of_not_le hend, rfl, rfl, hc.past ht (Nat.lt_of_not_le hend) hov⟩

/-- **The walk so far.** Steps that each yield a module take the iterator from record `i` to record
`i` plus their number, and yield the modules the layout places at the records in between. -/
theorem Yields.walked (ht : t.Sound) {c c'' : Cursor w} {ms : List BundleModule} (h : t.Yields c ms c'') :
    ∀ {i}, t.Walked c i →
      t.Walked c'' (i + ms.length) ∧ ms = (List.range' i ms.length).map t.toBundle.moduleAt := by
  induction h with
  | done c => intro i hc; exact ⟨hc, rfl⟩
  | step hstep _ ih =>
    intro i hc
    obtain ⟨-, -, rfl, hc'⟩ := hc.of_tryNext ht hstep
    obtain ⟨hend, hms⟩ := ih hc'
    refine ⟨by simpa [Nat.add_assoc, Nat.add_comm 1] using hend, ?_⟩
    rw [List.length_cons, List.range'_succ, List.map_cons, ← hms]

/-! ## No record is cut short -/

/-- A record before the count is never cut short: whatever the cursors, its reading ends in a module,
an out-of-bounds error or an overflow. -/
theorem readRecord_ne_truncated (ht : t.Sound) (hi : c.index.toNat < t.count.toNat) (n : Nat)
    (cursors : BitVec w × BitVec w) : t.readRecord c ≠ .ok (.error (.truncated n), cursors) := by
  unfold readRecord
  rw [lengthsAt_eq ht hi, ok_bind]
  simp only
  split
  · simp
  · split
    · simp
    · -- the two cursor sums either overflow or give the module
      cases Machine.add c.nameCursor (Machine.ofU32 (t.toBundle.nameLen c.index.toNat)) <;>
        cases Machine.add c.bytecodeCursor (Machine.ofU32 (t.toBundle.codeLen c.index.toNat)) <;> simp

/-- **The cut-short branch is unreachable.** Every length record before the count lies inside the
bundle, so no step, from any cursor, reports a record cut short. -/
theorem tryNext_ne_truncated (ht : t.Sound) (c c' : Cursor w) (n : Nat) :
    t.tryNext c ≠ .ok (some (.error (.truncated n)), c') := by
  by_cases hend : t.count.toNat ≤ c.index.toNat
  · rw [tryNext_of_le hend]
    simp
  rw [tryNext_of_lt (Nat.lt_of_not_le hend)]
  intro h
  cases hr : t.readRecord c with
  | error e => rw [hr] at h; cases h
  | ok r =>
    rw [hr] at h
    obtain ⟨res, cursors⟩ := r
    cases h
    exact readRecord_ne_truncated ht (Nat.lt_of_not_le hend) n cursors hr

/-! ## A parsed table -/

/-- A table that parsing returned has every module inside its bytes. -/
theorem fits_of_parseAt (ht : t.Sound) (h : parseAt w t.bytes = .ok (.ok t)) : t.toBundle.Fits := by
  rw [parseAt_eq ht.width ht.length] at h
  cases hp : parse t.bytes with
  | error e => rw [hp] at h; cases h
  | ok b =>
    rw [hp] at h
    have hb : Table.ofBundle w b = t := by cases h; rfl
    obtain ⟨⟨-, -, -, hfit⟩, rfl⟩ := (parse_eq_ok_iff _ _).mp hp
    rw [← hb, toBundle_ofBundle_header ht.width]
    exact hfit

/-- On a table whose modules all fit, a step from record `i` yields nothing past the count and
module `i` before it. -/
theorem tryNext_of_walked_fits (ht : t.Sound) (hfit : t.toBundle.Fits) (hc : t.Walked c i) :
    t.tryNext c =
      if t.count.toNat ≤ i then .ok (none, c)
      else .ok (some (.ok (t.toBundle.moduleAt i)), ⟨c.index + 1,
          c.nameCursor + Machine.ofU32 (t.toBundle.nameLen i),
          c.bytecodeCursor + Machine.ofU32 (t.toBundle.codeLen i)⟩) := by
  rw [tryNext_of_walked ht hc]
  by_cases hend : t.count.toNat ≤ i
  · rw [if_pos hend, if_pos hend]
  · rw [if_neg hend, if_neg hend,
      if_neg (by simp [overruns_eq_false_iff.mpr (hfit i (Nat.lt_of_not_le hend))])]

/-- **The iterator's users see every module, then the end.** On a table whose modules all fit,
from record `i` with `k` records left, `k + 1` calls of `next` answer modules `i` to `i + k - 1`
and then nothing. The induction runs over the records left, `k`. -/
theorem nextN_of_walked (ht : t.Sound) (hfit : t.toBundle.Fits) (k : Nat) :
    ∀ {c i}, t.Walked c i → i + k = t.count.toNat →
      ∃ c', t.nextN (k + 1) c = .ok ((List.range' i k).map (some ∘ t.toBundle.moduleAt) ++ [none], c') := by
  induction k with
  | zero =>
    intro c i hc hk
    refine ⟨c, ?_⟩
    simp only [nextN, next, tryNext_of_walked_fits ht hfit hc, if_pos (show t.count.toNat ≤ i by omega)]
    rfl
  | succ k ih =>
    intro c i hc hk
    have hi : i < t.count.toNat := by omega
    have hov : t.toBundle.overruns i = false := overruns_eq_false_iff.mpr (hfit i hi)
    obtain ⟨c', hrest⟩ := ih (hc.past ht hi hov) (show i + 1 + k = t.count.toNat by omega)
    refine ⟨c', ?_⟩
    rw [nextN]
    simp only [next, tryNext_of_walked_fits ht hfit hc, if_neg (show ¬ t.count.toNat ≤ i by omega),
      ok_bind, pure_eq]
    rw [hrest]
    simp [List.range'_succ, Except.toOption]

end Table

/-- **The module iterator's cursors.** On a table that passed the header and room checks on a
target of 32 bits or more: every length record before the count is read, so no step, from any
cursor, reports a record cut short; and after steps from the start that each yielded a module, the
last one for record `i`, the index is `i + 1` and each pool cursor is the sum of the lengths of
records `0` to `i`, ending inside the bundle. On a table that parsing returned, no step from
anywhere those steps reach yields an error, and `count + 1` calls of `next` answer the `count`
modules in order and then nothing. -/
theorem module_iterator_cursors {w : Nat} (t : Table w) (ht : t.Sound) :
    (∀ index : UInt32, index.toNat < t.count.toNat →
      t.lengthsAt index = .ok (some (t.toBundle.nameLen index.toNat, t.toBundle.codeLen index.toNat))) ∧
    (∀ c c' n, t.tryNext c ≠ .ok (some (.error (.truncated n)), c')) ∧
    (∀ ms c i, t.Yields ⟨0, 0, 0⟩ ms c → ms.length = i + 1 →
      c.index.toNat = i + 1 ∧
      c.nameCursor.toNat = t.toBundle.namesBefore (i + 1) ∧
      t.namePool.toNat + c.nameCursor.toNat ≤ t.bytes.length ∧
      c.bytecodeCursor.toNat = t.toBundle.codeBefore (i + 1) ∧
      t.bytecodePool.toNat + c.bytecodeCursor.toNat ≤ t.bytes.length) ∧
    (parseAt w t.bytes = .ok (.ok t) →
      (∀ ms c, t.Yields ⟨0, 0, 0⟩ ms c → ∃ r c', t.tryNext c = .ok (r, c') ∧ ∀ e, r ≠ some (.error e)) ∧
      ∃ c, t.nextN (t.count.toNat + 1) ⟨0, 0, 0⟩ =
        .ok ((List.range t.count.toNat).map (some ∘ t.toBundle.moduleAt) ++ [none], c)) := by
  have hwalk : ∀ ms c, t.Yields ⟨0, 0, 0⟩ ms c → t.Walked c ms.length := fun ms c h => by
    simpa using (h.walked ht Table.walked_start).1
  refine ⟨fun index hi => Table.lengthsAt_eq ht hi, Table.tryNext_ne_truncated ht, ?_,
    fun hparse => ⟨?_, ?_⟩⟩
  · intro ms c i h hlen
    have hc := hwalk ms c h
    rw [hlen] at hc
    obtain ⟨hn, hb⟩ := hc.inside (Nat.succ_pos i)
    exact ⟨hc.index, hc.name, hn, hc.bytecode, hb⟩
  · intro ms c h
    rw [Table.tryNext_of_walked_fits ht (Table.fits_of_parseAt ht hparse) (hwalk ms c h)]
    split
    · exact ⟨none, c, rfl, by simp⟩
    · exact ⟨_, _, rfl, by simp⟩
  · have := Table.nextN_of_walked ht (Table.fits_of_parseAt ht hparse) t.count.toNat Table.walked_start
      (Nat.zero_add _)
    simpa [List.range_eq_range'] using this

/-- The library's test bundle on the device: its table is sound, and its iterator answers `lib`,
`app` and the entry record, then nothing. -/
theorem appBundle_iterator :
    (Table.ofBundle 32 (header appBundle)).Sound ∧
      ∃ c, (Table.ofBundle 32 (header appBundle)).nextN 4 ⟨0, 0, 0⟩ =
        .ok ((List.range 3).map (some ∘ (header appBundle).moduleAt) ++ [none], c) := by
  have ht : (Table.ofBundle 32 (header appBundle)).Sound :=
    Table.sound_ofBundle_header (by decide) (by decide +kernel) (by decide +kernel)
  have hparse : parseAt 32 (Table.ofBundle 32 (header appBundle)).bytes =
      .ok (.ok (Table.ofBundle 32 (header appBundle))) := by
    rw [parseAt_eq (by decide) (by decide +kernel), (parse_eq_ok_iff _ _).mpr ⟨by decide +kernel, rfl⟩]
    rfl
  obtain ⟨-, -, -, hparsed⟩ := module_iterator_cursors _ ht
  obtain ⟨c, hc⟩ := (hparsed hparse).2
  rw [Table.toBundle_ofBundle_header (by decide)] at hc
  exact ⟨ht, c, hc⟩

end Bundle

end DeviceBoot
