import Mathlib
import DeviceBoot.Memory.Layout
/-!
# What layout validation accepts, and what it reports

A layout is checked against a fixed list of requirements, each a condition and the error that
reports it failing (`MemoryLayout.requirements`): each region's purpose, then that it is not
inverted, region by region; the alignment of static storage's start and of the stack's end; and
that the pairs (stack, heap), (static storage, stack) and (static storage, heap) do not overlap.
`reportFirst` reports the first requirement that fails.

`validate_eq_reportFirst` says validation is exactly that. A loop that stops at the first item it
finds bad reports the first failing requirement of its items (`forIn_throw_eq_reportFirst`). The
alignment and overlap loops read each region's purpose, to pick the edge to check and to name the
regions in the error; they read the right purposes because the purpose checks ran first, and the
proof follows that order (`Except.bind_congr_ok`). An accepted layout holds each address in at
most one region and starts static storage on a word boundary, which is what clearing it a word at a
time needs.

Main statement: `validate_reports_the_first_failed_check`.
-/

namespace DeviceBoot

section Report

variable {ε : Type}

/-- Report the first requirement that fails, in order; if none fails, succeed. Each requirement is
whether it holds and the error that reports it failing. -/
def reportFirst (requirements : List (Bool × ε)) : Except ε Unit :=
  match requirements.find? (fun r => !r.1) with
  | none => .ok ()
  | some r => .error r.2

theorem reportFirst_nil : reportFirst ([] : List (Bool × ε)) = .ok () := rfl

theorem reportFirst_cons (r : Bool × ε) (rs : List (Bool × ε)) :
    reportFirst (r :: rs) = if r.1 then reportFirst rs else .error r.2 := by
  obtain ⟨holds, e⟩ := r
  cases holds <;> simp [reportFirst]

/-- Requirements one list after another: the first list is reported on first. -/
theorem reportFirst_append (rs rs' : List (Bool × ε)) :
    reportFirst (rs ++ rs') = (reportFirst rs >>= fun _ => reportFirst rs') := by
  induction rs with
  | nil => rfl
  | cons r rs ih =>
    rw [List.cons_append, reportFirst_cons, reportFirst_cons, ih]
    split <;> rfl

theorem reportFirst_eq_ok_iff (rs : List (Bool × ε)) :
    reportFirst rs = .ok () ↔ ∀ r ∈ rs, r.1 = true := by
  induction rs with
  | nil => simp [reportFirst_nil]
  | cons r rs ih =>
    rw [reportFirst_cons, List.forall_mem_cons, ← ih]
    obtain ⟨holds, e⟩ := r
    cases holds <;> simp

/-- A loop that stops at the first item found bad, with that item's error, reports the first
failing requirement of the items, in order. -/
theorem forIn_throw_eq_reportFirst {α : Type} (xs : List α) (bad : α → Prop) [DecidablePred bad]
    (err : α → ε) :
    (forIn xs PUnit.unit fun x _ =>
        if bad x then do
          (throw (err x) : Except ε PUnit)
          pure (ForInStep.yield PUnit.unit)
        else pure (ForInStep.yield PUnit.unit)) =
      (reportFirst (xs.map fun x => (!decide (bad x), err x)) >>= fun _ => pure PUnit.unit) := by
  induction xs with
  | nil => rfl
  | cons x xs ih =>
    rw [List.forIn_cons, List.map_cons, reportFirst_cons]
    by_cases hx : bad x
    · simp only [hx, ↓reduceIte]
      rfl
    · simp only [hx, ↓reduceIte, decide_false, Bool.not_false, pure_bind]
      exact ih

end Report

/-- Congruence of `Except`'s bind, where the continuations need agree only once the first
computation has succeeded. -/
theorem Except.bind_congr_ok {ε β : Type} {x : Except ε Unit} {f g : Unit → Except ε β}
    (h : x = .ok () → f () = g ()) : (x >>= f) = (x >>= g) := by
  cases x with
  | error e => rfl
  | ok u => exact h rfl

namespace MemoryRegion

/-- A region's own requirements in the slot for `expected`: it was registered for that purpose,
and it is not inverted. -/
def requirements (r : MemoryRegion) (expected : RegionPurpose) : List (Bool × LayoutError) :=
  [(r.purpose == expected, .wrongPurpose expected r.purpose),
   (decide (r.start ≤ r.end), .inverted expected r.start r.end)]

/-- Checking a region is reporting the first of its requirements that fails; an inverted region
is reported under its own purpose, which by then is the expected one. -/
theorem check_eq (r : MemoryRegion) (expected : RegionPurpose) :
    r.check expected = reportFirst (r.requirements expected) := by
  unfold check requirements
  by_cases hp : r.purpose = expected
  · by_cases hinv : r.end < r.start
    · simp [reportFirst_cons, hp, hinv]
    · simp [reportFirst_cons, reportFirst_nil, hp, hinv]
  · simp [reportFirst_cons, hp]

theorem purpose_of_reportFirst {r : MemoryRegion} {expected : RegionPurpose}
    (h : reportFirst (r.requirements expected) = .ok ()) : r.purpose = expected := by
  rw [reportFirst_eq_ok_iff] at h
  simpa [requirements] using h _ List.mem_cons_self

end MemoryRegion

namespace MemoryLayout

/-- What a bootable layout requires, in the order it is checked, each with the error that
reports it failing. -/
def requirements (l : MemoryLayout) : List (Bool × LayoutError) :=
  l.zeroInit.requirements .zeroInit ++ l.stack.requirements .stack ++
    l.heap.requirements .heap ++
  [(l.zeroInit.start % wordBytes == 0, .misaligned .zeroInit l.zeroInit.start),
   (l.stack.end % wordBytes == 0, .misaligned .stack l.stack.end),
   (!l.stack.overlaps l.heap, .overlap .stack .heap),
   (!l.zeroInit.overlaps l.stack, .overlap .zeroInit .stack),
   (!l.zeroInit.overlaps l.heap, .overlap .zeroInit .heap)]

/-- **Validation reports the first requirement that fails.** -/
theorem validate_eq_reportFirst (l : MemoryLayout) : l.validate = reportFirst l.requirements := by
  unfold validate requirements
  rw [forIn_throw_eq_reportFirst, forIn_throw_eq_reportFirst, MemoryRegion.check_eq,
    MemoryRegion.check_eq, MemoryRegion.check_eq, reportFirst_append, reportFirst_append,
    reportFirst_append]
  simp only [bind_assoc]
  -- past the three region checks, every purpose is the one its slot expects
  refine Except.bind_congr_ok fun hz => Except.bind_congr_ok fun hs => Except.bind_congr_ok
    fun hh => ?_
  -- the last five requirements are the alignment loop's two, then the overlap loop's three
  have hsplit : ∀ a b c d e : Bool × LayoutError, [a, b, c, d, e] = [a, b] ++ [c, d, e] :=
    fun _ _ _ _ _ => rfl
  rw [hsplit, reportFirst_append]
  simp only [List.map_cons, List.map_nil, MemoryRegion.purpose_of_reportFirst hz,
    MemoryRegion.purpose_of_reportFirst hs, MemoryRegion.purpose_of_reportFirst hh, reduceCtorEq,
    ↓reduceIte, decide_not, Bool.not_not, Bool.decide_eq_true, pure_bind, bind_pure_unit,
    Bool.beq_eq_decide_eq]

/-- The requirements, spelled out: each region in its own slot and not inverted, static storage
starting and the stack ending on a word boundary, and no two regions overlapping. -/
theorem requirements_hold_iff (l : MemoryLayout) :
    (∀ r ∈ l.requirements, r.1 = true) ↔
      (l.zeroInit.purpose = .zeroInit ∧ l.zeroInit.start ≤ l.zeroInit.end) ∧
      (l.stack.purpose = .stack ∧ l.stack.start ≤ l.stack.end) ∧
      (l.heap.purpose = .heap ∧ l.heap.start ≤ l.heap.end) ∧
      l.zeroInit.start % wordBytes = 0 ∧ l.stack.end % wordBytes = 0 ∧
      l.stack.overlaps l.heap = false ∧ l.zeroInit.overlaps l.stack = false ∧
      l.zeroInit.overlaps l.heap = false := by
  simp [requirements, MemoryRegion.requirements, and_assoc]

/-- No address lies in two regions of a layout whose pairs do not overlap. -/
theorem countP_contains_le_one {l : MemoryLayout} (h1 : l.stack.overlaps l.heap = false)
    (h2 : l.zeroInit.overlaps l.stack = false) (h3 : l.zeroInit.overlaps l.heap = false)
    (addr : Nat) : [l.zeroInit, l.stack, l.heap].countP (·.contains addr) ≤ 1 := by
  -- a pair that does not overlap shares no address
  have apart : ∀ r o : MemoryRegion, r.overlaps o = false →
      ¬ (r.contains addr = true ∧ o.contains addr = true) := fun r o h hboth => by
    have := (MemoryRegion.overlaps_iff r o).mpr ⟨addr, hboth⟩
    simp_all
  have a1 := apart _ _ h1
  have a2 := apart _ _ h2
  have a3 := apart _ _ h3
  simp only [List.countP_cons, List.countP_nil]
  -- what is left is about three booleans, no two of them true
  revert a1 a2 a3
  generalize l.zeroInit.contains addr = z
  generalize l.stack.contains addr = s
  generalize l.heap.contains addr = h
  revert z s h
  decide

/-- **Validation reports the first failed check, and accepts exactly the bootable layouts.**
It succeeds exactly when every region has its own purpose and is not inverted, static storage
starts and the stack ends on a word boundary, and the pairs (stack, heap), (static storage,
stack) and (static storage, heap) do not overlap. Otherwise it reports the first of these checks
that fails, in that order, with the purpose and inversion checks region by region. A layout it
accepts holds each address in at most one region and starts static storage on a word boundary,
as clearing it a word at a time requires. -/
theorem validate_reports_the_first_failed_check (l : MemoryLayout) :
    l.validate = reportFirst l.requirements ∧
    (l.validate = .ok () ↔
      (l.zeroInit.purpose = .zeroInit ∧ l.zeroInit.start ≤ l.zeroInit.end) ∧
      (l.stack.purpose = .stack ∧ l.stack.start ≤ l.stack.end) ∧
      (l.heap.purpose = .heap ∧ l.heap.start ≤ l.heap.end) ∧
      l.zeroInit.start % wordBytes = 0 ∧ l.stack.end % wordBytes = 0 ∧
      l.stack.overlaps l.heap = false ∧ l.zeroInit.overlaps l.stack = false ∧
      l.zeroInit.overlaps l.heap = false) ∧
    (l.validate = .ok () →
      (∀ addr, [l.zeroInit, l.stack, l.heap].countP (·.contains addr) ≤ 1) ∧
        l.zeroInit.start % wordBytes = 0) := by
  have hok : l.validate = .ok () ↔ ∀ r ∈ l.requirements, r.1 = true := by
    rw [validate_eq_reportFirst, reportFirst_eq_ok_iff]
  refine ⟨validate_eq_reportFirst l, hok.trans (requirements_hold_iff l), fun h => ?_⟩
  obtain ⟨-, -, -, hza, -, h1, h2, h3⟩ := (requirements_hold_iff l).mp (hok.mp h)
  exact ⟨countP_contains_le_one h1 h2 h3, hza⟩

/-- A heap that starts inside the stack is reported as the stack overlapping the heap. -/
example :
    (⟨⟨0x1000, 0x2000, .zeroInit⟩, ⟨0x2000, 0x3000, .stack⟩, ⟨0x2800, 0x4000, .heap⟩⟩ :
      MemoryLayout).validate = .error (.overlap .stack .heap) := by decide

end MemoryLayout

end DeviceBoot
