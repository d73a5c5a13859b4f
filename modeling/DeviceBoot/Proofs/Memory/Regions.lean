import Mathlib
import DeviceBoot.Memory.Region
/-!
# Regions as sets of addresses

A region's length and its three tests, `isEmpty`, `contains` and `overlaps`, are computed from its
two bounds: a saturating difference, a half-open membership test and a conjunction of strict
comparisons. Each of them is a statement about the set of addresses the region holds, the
interval `[start, end)`: the length counts that set, a region is empty exactly when the set is,
and two regions overlap exactly when their sets meet. The computed forms agree with these at every
boundary: for empty and inverted regions, and for regions that only touch.

Main statement: `regions_as_address_sets`.
-/

namespace DeviceBoot

namespace MemoryRegion

/-- The addresses a region holds are the interval `[start, end)`, which is empty when the region
is inverted. -/
theorem setOf_contains_eq_Ico (r : MemoryRegion) :
    {addr | r.contains addr = true} = Set.Ico r.start r.end := by
  ext addr
  simp only [Set.mem_ofPred_eq, contains_iff, Set.mem_Ico]

/-- A region's length counts the addresses it holds, and there are finitely many. -/
theorem encard_setOf_contains (r : MemoryRegion) : {addr | r.contains addr = true}.encard = r.len := by
  rw [setOf_contains_eq_Ico, ← Finset.coe_Ico, Set.encard_coe_eq_coe_finsetCard, Nat.card_Ico]
  rfl

/-- A region that ends where it starts, or before, holds no address. -/
theorem isEmpty_of_end_le_start {r : MemoryRegion} (h : r.end ≤ r.start) : r.isEmpty = true := by
  simp only [isEmpty, len, beq_iff_eq]
  omega

/-- A region with no address overlaps nothing. -/
theorem overlaps_eq_false_of_isEmpty {r : MemoryRegion} (h : r.isEmpty = true) (o : MemoryRegion) :
    r.overlaps o = false := by
  simp [overlaps, h]

/-- Regions that meet only where the first ends and the second starts share no address. -/
theorem overlaps_eq_false_of_end_eq_start {r o : MemoryRegion} (h : r.end = o.start) :
    r.overlaps o = false := by
  rw [Bool.eq_false_iff]
  intro hov
  obtain ⟨addr, hr, ho⟩ := (overlaps_iff r o).mp hov
  rw [contains_iff] at hr ho
  omega

/-- Regions that do not overlap share no address. -/
theorem not_both_contains_of_overlaps_eq_false {r o : MemoryRegion} (h : r.overlaps o = false)
    (addr : Nat) : ¬ (r.contains addr = true ∧ o.contains addr = true) := fun hboth => by
  have := (overlaps_iff r o).mpr ⟨addr, hboth⟩
  simp_all

/-- **Regions are their sets of addresses.** Two regions overlap exactly when some address lies in
both, so overlapping is symmetric; a region that is empty or inverted overlaps nothing, and
regions that only touch, one ending where the other starts, do not overlap. A region's length is
the number of addresses it holds, and it is empty exactly when it holds none. -/
theorem regions_as_address_sets :
    (∀ r o : MemoryRegion,
      r.overlaps o = true ↔ ∃ addr, r.contains addr = true ∧ o.contains addr = true) ∧
    (∀ r o : MemoryRegion, r.overlaps o = o.overlaps r) ∧
    (∀ r o : MemoryRegion, r.end ≤ r.start → r.overlaps o = false ∧ o.overlaps r = false) ∧
    (∀ r o : MemoryRegion, r.end = o.start → r.overlaps o = false ∧ o.overlaps r = false) ∧
    (∀ r : MemoryRegion, {addr | r.contains addr = true}.encard = r.len) ∧
    (∀ r : MemoryRegion, r.isEmpty = true ↔ ∀ addr, r.contains addr = false) := by
  refine ⟨overlaps_iff, overlaps_comm, fun r o h => ?_, fun r o h => ?_, encard_setOf_contains,
    isEmpty_iff⟩
  · have hr := overlaps_eq_false_of_isEmpty (isEmpty_of_end_le_start h) o
    exact ⟨hr, overlaps_comm o r ▸ hr⟩
  · have hr := overlaps_eq_false_of_end_eq_start h
    exact ⟨hr, overlaps_comm o r ▸ hr⟩

/-- A stack that ends where the heap starts does not overlap it, in either order. -/
theorem adjacent_stack_and_heap_apart :
    (⟨0x1000, 0x2000, .stack⟩ : MemoryRegion).end = (⟨0x2000, 0x3000, .heap⟩ : MemoryRegion).start ∧
      (⟨0x1000, 0x2000, .stack⟩ : MemoryRegion).overlaps ⟨0x2000, 0x3000, .heap⟩ = false ∧
      (⟨0x2000, 0x3000, .heap⟩ : MemoryRegion).overlaps ⟨0x1000, 0x2000, .stack⟩ = false :=
  ⟨rfl, regions_as_address_sets.2.2.2.1 _ _ rfl⟩

end MemoryRegion

end DeviceBoot
