import DeviceBoot.Memory.Region
import DeviceBoot.Word.LittleEndian
/-!
# Memory layout

The linker places three regions: static storage that must start zeroed, the stack and the heap.
Before anything touches memory the layout is validated: each region has its own purpose and is not
inverted, static storage starts on a word boundary, the stack ends on one, and no two regions
share an address.

Main definitions: `MemoryLayout.validate` and `LayoutError.message`.
-/

namespace DeviceBoot

/-- Why a memory layout cannot be booted. -/
inductive LayoutError where
  /-- The region's end lies before its start. -/
  | inverted (purpose : RegionPurpose) (start «end» : Nat)
  /-- The region's checked edge is not word aligned. -/
  | misaligned (purpose : RegionPurpose) (start : Nat)
  /-- Two regions share an address. -/
  | overlap (first second : RegionPurpose)
  /-- A region sits in the slot of another purpose. -/
  | wrongPurpose (expected found : RegionPurpose)
  deriving DecidableEq, Repr

/-- The text a layout error is reported with. -/
def LayoutError.message : LayoutError → String
  | .inverted p start e =>
    s!"{p.name} region ends before it starts ({Hex.prefixed start}..{Hex.prefixed e})"
  | .misaligned p start => s!"{p.name} region at {Hex.prefixed start} is not word aligned"
  | .overlap first second => s!"{first.name} region overlaps {second.name} region"
  | .wrongPurpose expected found => s!"region registered as {found.name}, expected {expected.name}"

/-- The regions the linker lays out. -/
structure MemoryLayout where
  zeroInit : MemoryRegion
  stack : MemoryRegion
  heap : MemoryRegion
  deriving DecidableEq, Repr

namespace MemoryRegion

/-- The region sits in the slot for `expected` and is not inverted. -/
def check (r : MemoryRegion) (expected : RegionPurpose) : Except LayoutError Unit :=
  if r.purpose ≠ expected then .error (.wrongPurpose expected r.purpose)
  else if r.end < r.start then .error (.inverted r.purpose r.start r.end)
  else .ok ()

end MemoryRegion

namespace MemoryLayout

/-- Check a layout, reporting the first failure: purposes and inversion region by region, then the
alignment of static storage and of the stack, then overlap of (stack, heap), (static storage,
stack) and (static storage, heap). Static storage is cleared a word at a time from its start, and
the stack is walked in words down from its end, so the edge checked is the one the purpose names. -/
def validate (l : MemoryLayout) : Except LayoutError Unit := do
  l.zeroInit.check .zeroInit
  l.stack.check .stack
  l.heap.check .heap
  for region in [l.zeroInit, l.stack] do
    let edge := if region.purpose = .stack then region.end else region.start
    if edge % wordBytes ≠ 0 then throw (.misaligned region.purpose edge)
  for (first, second) in [(l.stack, l.heap), (l.zeroInit, l.stack), (l.zeroInit, l.heap)] do
    if first.overlaps second then throw (.overlap first.purpose second.purpose)

end MemoryLayout

end DeviceBoot
