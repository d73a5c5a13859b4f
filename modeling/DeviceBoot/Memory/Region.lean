import DeviceBoot.Text.Hex
/-!
# Memory regions

A region is a half-open address range `[start, end)` registered for one purpose. Bounds are
arbitrary: a region whose end lies before its start is inverted and, like an empty one, holds no
address.

Main statements: `overlaps_iff` (two regions overlap exactly when some address lies in both),
`overlaps_comm`, and `isEmpty_iff` (a region is empty exactly when it holds no address).
-/

namespace DeviceBoot

/-- What a region of memory is for. -/
inductive RegionPurpose where
  | zeroInit
  | stack
  | heap
  | bytecode
  deriving DecidableEq, Repr

/-- The name a purpose is reported under. -/
def RegionPurpose.name : RegionPurpose → String
  | .zeroInit => "ZeroInit"
  | .stack => "Stack"
  | .heap => "Heap"
  | .bytecode => "Bytecode"

/-- An address range registered for a purpose. -/
structure MemoryRegion where
  start : Nat
  «end» : Nat
  purpose : RegionPurpose
  deriving DecidableEq, Repr

namespace MemoryRegion

/-- Bytes in the region; an inverted region has none. -/
def len (r : MemoryRegion) : Nat := r.end - r.start

/-- The region holds no byte. -/
def isEmpty (r : MemoryRegion) : Bool := r.len == 0

/-- The address lies in the region. -/
def contains (r : MemoryRegion) (addr : Nat) : Bool := r.start ≤ addr && addr < r.end

/-- Both regions are non-empty and share an address. -/
def overlaps (r o : MemoryRegion) : Bool :=
  !r.isEmpty && !o.isEmpty && r.start < o.end && o.start < r.end

theorem contains_iff (r : MemoryRegion) (addr : Nat) :
    r.contains addr = true ↔ r.start ≤ addr ∧ addr < r.end := by
  simp [contains]

theorem isEmpty_iff (r : MemoryRegion) : r.isEmpty = true ↔ ∀ addr, r.contains addr = false := by
  simp only [isEmpty, len, beq_iff_eq, contains]
  constructor
  · intro h addr
    simp only [Bool.and_eq_false_iff, decide_eq_false_iff_not, Nat.not_le, Nat.not_lt]
    omega
  · intro h
    have := h r.start
    simp only [Bool.and_eq_false_iff, decide_eq_false_iff_not, Nat.not_le, Nat.not_lt] at this
    omega

/-- **Overlap is sharing an address.** -/
theorem overlaps_iff (r o : MemoryRegion) :
    r.overlaps o = true ↔ ∃ addr, r.contains addr = true ∧ o.contains addr = true := by
  simp only [overlaps, isEmpty, len, contains, Bool.and_eq_true, Bool.not_eq_true',
    beq_eq_false_iff_ne, decide_eq_true_eq]
  constructor
  · rintro ⟨⟨⟨_, _⟩, _⟩, _⟩
    exact ⟨max r.start o.start, by omega, by omega⟩
  · rintro ⟨addr, ⟨_, _⟩, ⟨_, _⟩⟩
    omega

theorem overlaps_comm (r o : MemoryRegion) : r.overlaps o = o.overlaps r := by
  simp only [overlaps]
  cases r.isEmpty <;> cases o.isEmpty <;> simp [Bool.and_comm]

end MemoryRegion

end DeviceBoot
