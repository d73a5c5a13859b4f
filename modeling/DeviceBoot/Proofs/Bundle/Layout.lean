import Mathlib
import DeviceBoot.Bundle.Table
/-!
# Bundle layout, read straight from the bytes

A bundle's header and length records are fixed fields, so everything `Bundle.parse` computes with
its two running cursors can also be written down directly: the 32-bit word at each offset, the
name and bytecode lengths of record `i`, and the sums of the lengths before it, which is where
module `i` starts in each pool. `walk_eq` states what the record walk computes in these terms:
the modules before the first record that overruns the bundle, and that record's error. Nothing
about the cursors is left once it is proved; later statements speak only of the layout.

The walk reads the length records only where `HasRoom` promises them, which is the check `parse`
makes before it walks.
-/

namespace DeviceBoot

namespace Bundle

/-- The 32-bit little-endian word at byte `k`. -/
def wordAt (bytes : Bytes) (k : Nat) : UInt32 := LittleEndian.ofWord32 ((bytes.drop k).take 4)

/-- The header a byte string declares, read without any check. -/
def header (bytes : Bytes) : Bundle :=
  ⟨bytes, (wordAt bytes 4).toNat, (wordAt bytes 8).toNat, wordAt bytes 12⟩

/-- Byte offset of length record `i`. -/
def recordAt (i : Nat) : Nat := headerLen + i * recordLen

variable (b : Bundle)

/-- Name length declared by record `i`. -/
def nameLen (i : Nat) : UInt32 := wordAt b.bytes (recordAt i)

/-- Bytecode length declared by record `i`. -/
def codeLen (i : Nat) : UInt32 := wordAt b.bytes (recordAt i + 4)

/-- Name bytes of the records before `i`. -/
def namesBefore (i : Nat) : Nat := ((List.range i).map fun j => (b.nameLen j).toNat).sum

/-- Bytecode bytes of the records before `i`. -/
def codeBefore (i : Nat) : Nat := ((List.range i).map fun j => (b.codeLen j).toNat).sum

/-- Where module `i`'s name starts. -/
def nameStart (i : Nat) : Nat := b.namePool + b.namesBefore i

/-- Where module `i`'s bytecode starts. -/
def codeStart (i : Nat) : Nat := b.bytecodePool + b.codeBefore i

/-- Module `i`'s name runs past the end of the bundle. -/
def nameOverruns (i : Nat) : Bool := decide (b.bytes.length < b.nameStart i + (b.nameLen i).toNat)

/-- Module `i`'s bytecode runs past the end of the bundle. -/
def codeOverruns (i : Nat) : Bool := decide (b.bytes.length < b.codeStart i + (b.codeLen i).toNat)

/-- Record `i` describes a module that does not fit. -/
def overruns (i : Nat) : Bool := b.nameOverruns i || b.codeOverruns i

/-- The error record `i` is rejected with: the name span is checked first. -/
def overrunError (i : Nat) : TableError :=
  if b.nameOverruns i then .outOfBounds (UInt32.ofNat i) (b.nameStart i) (b.nameLen i)
  else .outOfBounds (UInt32.ofNat i) (b.codeStart i) (b.codeLen i)

/-- Module `i` as the layout places it. -/
def moduleAt (i : Nat) : BundleModule :=
  ⟨b.bytes.extract (b.nameStart i) (b.nameStart i + (b.nameLen i).toNat),
   b.bytes.extract (b.codeStart i) (b.codeStart i + (b.codeLen i).toNat)⟩

/-- The first record that does not fit. -/
def firstOverrun : Option Nat := (List.range b.count.toNat).find? b.overruns

/-- Every module's name and bytecode lie inside the bundle. -/
def Fits : Prop :=
  ∀ i < b.count.toNat, b.nameStart i + (b.nameLen i).toNat ≤ b.bytes.length ∧
    b.codeStart i + (b.codeLen i).toNat ≤ b.bytes.length

/-- Every declared length record lies inside the bundle. -/
def HasRoom : Prop := b.count.toNat ≤ (b.bytes.length - headerLen) / recordLen

instance : Decidable b.Fits := inferInstanceAs (Decidable (∀ i < _, _))

instance : Decidable b.HasRoom := inferInstanceAs (Decidable (_ ≤ _))

variable {b}

theorem read32?_of_le {bytes : Bytes} {k : Nat} (h : k + 4 ≤ bytes.length) :
    LittleEndian.read32? bytes k = some (wordAt bytes k) := by
  simp [LittleEndian.read32?, h, wordAt]

theorem read32?_of_lt {bytes : Bytes} {k : Nat} (h : bytes.length < k + 4) :
    LittleEndian.read32? bytes k = none := by
  simp [LittleEndian.read32?, Nat.not_le.mpr h]

/-- The record a walk reads is there whenever the count has room. -/
theorem lengths_eq (hroom : b.HasRoom) {i : Nat} (hi : i < b.count.toNat) :
    b.lengths i = some (b.nameLen i, b.codeLen i) := by
  have hend : recordAt i + 8 ≤ b.bytes.length := by
    simp only [HasRoom, headerLen, recordLen] at hroom
    simp only [recordAt, headerLen, recordLen]
    have := (Nat.le_div_iff_mul_le (by decide)).mp hroom
    have : (i + 1) * 8 ≤ b.count.toNat * 8 := Nat.mul_le_mul_right 8 hi
    omega
  have hname : LittleEndian.read32? b.bytes (recordAt i) = some (b.nameLen i) :=
    read32?_of_le (by omega)
  have hcode : LittleEndian.read32? b.bytes (recordAt i + 4) = some (b.codeLen i) :=
    read32?_of_le (by omega)
  simp only [recordAt] at hname hcode
  simp [lengths, hname, hcode]

@[simp] theorem namesBefore_zero : b.namesBefore 0 = 0 := rfl

@[simp] theorem codeBefore_zero : b.codeBefore 0 = 0 := rfl

theorem namesBefore_succ (i : Nat) : b.namesBefore (i + 1) = b.namesBefore i + (b.nameLen i).toNat := by
  simp [namesBefore, List.range_succ]

theorem codeBefore_succ (i : Nat) : b.codeBefore (i + 1) = b.codeBefore i + (b.codeLen i).toNat := by
  simp [codeBefore, List.range_succ]

theorem moduleAt_eq (i : Nat) : b.moduleAt i =
    ⟨b.slice (b.namePool + b.namesBefore i) (b.nameLen i).toNat,
     b.slice (b.bytecodePool + b.codeBefore i) (b.codeLen i).toNat⟩ := by
  simp [moduleAt, slice, nameStart, codeStart]

theorem overruns_eq_false_iff {i : Nat} :
    b.overruns i = false ↔ b.nameStart i + (b.nameLen i).toNat ≤ b.bytes.length ∧
      b.codeStart i + (b.codeLen i).toNat ≤ b.bytes.length := by
  simp [overruns, nameOverruns, codeOverruns]

/-- No record overruns exactly when every module fits. -/
theorem firstOverrun_eq_none_iff : b.firstOverrun = none ↔ b.Fits := by
  unfold firstOverrun Fits
  rw [List.find?_range_eq_none]
  constructor
  · intro h i hi
    exact overruns_eq_false_iff.mp (by simpa using h i hi)
  · intro h i hi
    simpa using overruns_eq_false_iff.mpr (h i hi)

/-! ## The record walk -/

theorem walk_of_ge {i : Nat} (hi : b.count.toNat ≤ i) (nameAt codeAt : Nat) :
    b.walk i nameAt codeAt = ([], none) := by
  rw [walk, if_neg (by omega)]

/-- **One record of the walk.** With its cursors at the sums of the lengths before record `i`,
the walk stops at `i` with its error if the record overruns, and otherwise yields module `i` and
goes on from `i + 1` with both cursors advanced past it. -/
theorem walk_step (hroom : b.HasRoom) {i : Nat} (hi : i < b.count.toNat) :
    b.walk i (b.namesBefore i) (b.codeBefore i) =
      if b.overruns i then ([], some (b.overrunError i))
      else
        let rest := b.walk (i + 1) (b.namesBefore (i + 1)) (b.codeBefore (i + 1))
        (b.moduleAt i :: rest.1, rest.2) := by
  rw [walk, if_pos hi, lengths_eq hroom hi]
  simp only [namesBefore_succ, codeBefore_succ, moduleAt_eq, overruns, overrunError, nameOverruns,
    codeOverruns, nameStart, codeStart, gt_iff_lt, Nat.add_assoc]
  by_cases hname : b.bytes.length < b.namePool + (b.namesBefore i + (b.nameLen i).toNat)
  · simp [hname]
  · by_cases hcode : b.bytes.length < b.bytecodePool + (b.codeBefore i + (b.codeLen i).toNat)
    · simp [hname, hcode]
    · simp [hname, hcode]

/-- **What the walk computes.** From record `i` on, with its cursors at the sums of the lengths
before `i`: the modules of the records before the first one that overruns, and that record's
error, if any. The induction runs over the records left, `n`. -/
theorem walk_eq (hroom : b.HasRoom) (n i : Nat) (hn : i + n = b.count.toNat) :
    b.walk i (b.namesBefore i) (b.codeBefore i) =
      (((List.range' i n).takeWhile fun j => !b.overruns j).map b.moduleAt,
       ((List.range' i n).find? b.overruns).map b.overrunError) := by
  induction n generalizing i with
  | zero => simp [walk_of_ge (show b.count.toNat ≤ i by omega)]
  | succ n ih =>
    rw [walk_step hroom (by omega), List.range'_succ]
    by_cases hi : b.overruns i
    · simp [hi]
    · simp [hi, ih (i + 1) (by omega)]

/-- The modules a bundle yields: those of the records before the first overrun. -/
theorem modules_eq (hroom : b.HasRoom) :
    b.modules = ((List.range b.count.toNat).takeWhile fun j => !b.overruns j).map b.moduleAt := by
  have h := walk_eq hroom b.count.toNat 0 (by omega)
  simp only [namesBefore_zero, codeBefore_zero] at h
  simp [modules, h, List.range_eq_range']

/-- The walk's verdict: the error of the first record that does not fit. -/
theorem walk_error_eq (hroom : b.HasRoom) :
    (b.walk 0 0 0).2 = b.firstOverrun.map b.overrunError := by
  have h := walk_eq hroom b.count.toNat 0 (by omega)
  simp only [namesBefore_zero, codeBefore_zero] at h
  simp [h, firstOverrun, List.range_eq_range']

end Bundle

end DeviceBoot
