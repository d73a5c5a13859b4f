import Mathlib
/-!
# Machine words with overflow checks

On a target whose addresses have `w` bits, an address-sized word is a `BitVec w`. Plain `+`, `-`
and `*` stop the program when the exact result does not fit, as a build with overflow checks does;
`checkedAdd` answers `none` instead, and `saturatingAdd` gives the largest word. A 32-bit value
becomes an address-sized word by zero extension, or loses its high bits on a narrower target.

Main definitions: `Overflow`, `Machine.add`, `Machine.checkedAdd` and `Machine.saturatingAdd`.
-/

namespace DeviceBoot

/-- The operation whose exact result did not fit its type. -/
inductive Overflow where
  | add
  | sub
  | mul
  deriving DecidableEq, Repr

namespace Machine

variable {w : Nat}

/-- `a + b`, stopping when the sum does not fit. -/
def add (a b : BitVec w) : Except Overflow (BitVec w) :=
  if a.uaddOverflow b then .error .add else .ok (a + b)

/-- `a - b`, stopping when `b` is the larger. -/
def sub (a b : BitVec w) : Except Overflow (BitVec w) :=
  if a.usubOverflow b then .error .sub else .ok (a - b)

/-- `a * b`, stopping when the product does not fit. -/
def mul (a b : BitVec w) : Except Overflow (BitVec w) :=
  if a.umulOverflow b then .error .mul else .ok (a * b)

/-- The sum, if it fits. -/
def checkedAdd (a b : BitVec w) : Option (BitVec w) :=
  if a.uaddOverflow b then none else some (a + b)

/-- The sum, or the largest word when it does not fit. -/
def saturatingAdd (a b : BitVec w) : BitVec w :=
  if a.uaddOverflow b then BitVec.allOnes w else a + b

/-- A 32-bit value as an address-sized word. -/
def ofU32 (x : UInt32) : BitVec w := x.toBitVec.setWidth w

variable {a b : BitVec w}

theorem add_of_lt (h : a.toNat + b.toNat < 2 ^ w) : add a b = .ok (a + b) := by
  have hfits : a.uaddOverflow b = false := decide_eq_false (Nat.not_le.mpr h)
  rw [add, hfits]
  rfl

theorem sub_of_le (h : b.toNat ≤ a.toNat) : sub a b = .ok (a - b) := by
  have hfits : a.usubOverflow b = false := decide_eq_false (Nat.not_lt.mpr h)
  rw [sub, hfits]
  rfl

theorem mul_of_lt (h : a.toNat * b.toNat < 2 ^ w) : mul a b = .ok (a * b) := by
  have hfits : a.umulOverflow b = false := decide_eq_false (Nat.not_le.mpr h)
  rw [mul, hfits]
  rfl

theorem checkedAdd_of_lt (h : a.toNat + b.toNat < 2 ^ w) : checkedAdd a b = some (a + b) := by
  have hfits : a.uaddOverflow b = false := decide_eq_false (Nat.not_le.mpr h)
  rw [checkedAdd, hfits]
  rfl

theorem checkedAdd_of_le (h : 2 ^ w ≤ a.toNat + b.toNat) : checkedAdd a b = none := by
  have hover : a.uaddOverflow b = true := decide_eq_true h
  rw [checkedAdd, hover]
  rfl

/-- The saturating sum is the exact sum, cut at the largest word. -/
theorem toNat_saturatingAdd : (saturatingAdd a b).toNat = min (a.toNat + b.toNat) (2 ^ w - 1) := by
  unfold saturatingAdd
  by_cases h : a.toNat + b.toNat < 2 ^ w
  · have hfits : a.uaddOverflow b = false := decide_eq_false (Nat.not_le.mpr h)
    rw [hfits, if_neg Bool.false_ne_true, BitVec.toNat_add_of_lt h]
    omega
  · have hover : a.uaddOverflow b = true := decide_eq_true (Nat.not_lt.mp h)
    rw [hover, if_pos rfl, BitVec.toNat_allOnes]
    omega

/-- On a target of 32 bits or more, a 32-bit value keeps its value. -/
theorem toNat_ofU32 (hw : 32 ≤ w) (x : UInt32) : (ofU32 x : BitVec w).toNat = x.toNat :=
  BitVec.toNat_setWidth_of_le hw

end Machine

end DeviceBoot
