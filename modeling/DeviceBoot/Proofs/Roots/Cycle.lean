import Mathlib
import DeviceBoot.Bench.Collectors
/-!
# What a collection cycle hands the collector

A stack range of `len` words is read in `⌈len / 32⌉` batches: full ones, then one of 1 to 32 words.
Joined, they are the range's words in address order (`flatten_batches`), so no word is left out
or handed over twice.

`collectFrom_run_of_idle` opens a collection on an idle scanner: the cycle's calls run on the
scanner with its flag up, and the call returns normally with the flag down again. For a collector
that keeps to its own state, the calls are its own (`cycle_lift`), and for one that reads ranges
the default way they are the start, the registers, the batches and the end (`cycle_of_readRange`).

The mark-sweep heap checks how it is called. On an idle heap whose count of cycles can still grow,
a cycle keeps the objects some root equals (`cycle_run`); a heap already in a cycle stops the test
at the start, and one whose count is at its largest stops it at the end.

`collectFrom_reports_every_root` puts this together.
-/

namespace DeviceBoot

namespace RootCollector

/-! ## Batch sizes -/

theorem batchSizes_zero : batchSizes 0 = [] := by
  rw [batchSizes, if_pos rfl]

/-- A range of some words is read in some batch. -/
theorem batchSizes_ne_nil {len : Nat} (h : 0 < len) : batchSizes len ≠ [] := by
  rw [batchSizes, if_neg (by omega)]
  split <;> simp

/-- The batches cover the range. -/
@[simp] theorem sum_batchSizes (len : Nat) : (batchSizes len).sum = len := by
  fun_induction batchSizes len with
  | case1 => rfl
  | case2 len _ _ => simp
  | case3 len _ hgt ih =>
    rw [List.sum_cons, ih]
    omega

/-- There are `⌈len / 32⌉` batches. -/
theorem length_batchSizes (len : Nat) : (batchSizes len).length = (len + 31) / 32 := by
  fun_induction batchSizes len with
  | case1 => rfl
  | case2 len h0 hle =>
    simp only [scanChunkWords, List.length_singleton] at hle ⊢
    omega
  | case3 len _ hgt ih =>
    rw [List.length_cons, ih]
    simp only [scanChunkWords] at hgt ⊢
    omega

/-- Every batch but the last is full. -/
theorem eq_of_mem_dropLast_batchSizes {len n : Nat} (h : n ∈ (batchSizes len).dropLast) :
    n = scanChunkWords := by
  fun_induction batchSizes len with
  | case1 => simp at h
  | case2 => simp at h
  | case3 len _ hgt ih =>
    -- a full batch, then the batches of the rest, of which there is at least one
    rw [List.dropLast_cons_of_ne_nil (batchSizes_ne_nil (by omega)), List.mem_cons] at h
    rcases h with rfl | h
    · rfl
    · exact ih h

/-- The last batch holds 1 to 32 words. -/
theorem bounds_of_mem_getLast?_batchSizes {len n : Nat} (h : n ∈ (batchSizes len).getLast?) :
    0 < n ∧ n ≤ scanChunkWords := by
  fun_induction batchSizes len with
  | case1 => simp at h
  | case2 len h0 hle =>
    simp only [List.getLast?_singleton, Option.mem_def, Option.some.injEq] at h
    omega
  | case3 len _ hgt ih =>
    rw [List.getLast?_cons_of_ne_nil (batchSizes_ne_nil (by omega))] at h
    exact ih h

/-! ## Batches of words -/

theorem map_length_batches_go (read : Nat → Word) (addr : Nat) (sizes : List Nat) :
    (batches.go read addr sizes).map List.length = sizes := by
  induction sizes generalizing addr with
  | nil => rfl
  | cons n rest ih => simp [batches.go, ih]

/-- Batches read one after another from `addr` hold the words from `addr` up, in order. -/
theorem flatten_batches_go (read : Nat → Word) (addr : Nat) (sizes : List Nat) :
    (batches.go read addr sizes).flatten =
      (List.range sizes.sum).map fun i => read (addr + wordBytes * i) := by
  induction sizes generalizing addr with
  | nil => rfl
  | cons n rest ih =>
    simp only [batches.go, List.flatten_cons, ih, List.sum_cons, List.range_add, List.map_append,
      List.map_map]
    congr 1
    apply List.map_congr_left
    intro i _
    simp [Function.comp, Nat.mul_add, Nat.add_assoc]

/-- **The batches of a range are its words, in order.** -/
theorem flatten_batches (read : Nat → Word) (start len : Nat) :
    (batches read start len).flatten =
      (List.range len).map fun i => read (start + wordBytes * i) := by
  rw [batches, flatten_batches_go, sum_batchSizes]

theorem length_batches (read : Nat → Word) (start len : Nat) :
    (batches read start len).length = (len + 31) / 32 := by
  rw [batches, ← List.length_map (f := List.length), map_length_batches_go, length_batchSizes]

theorem length_of_mem_dropLast_batches {read : Nat → Word} {start len : Nat} {b : List Word}
    (h : b ∈ (batches read start len).dropLast) : b.length = scanChunkWords := by
  have hmem : b.length ∈ ((batches read start len).map List.length).dropLast := by
    rw [← List.map_dropLast]
    exact List.mem_map_of_mem h
  rw [batches, map_length_batches_go] at hmem
  exact eq_of_mem_dropLast_batchSizes hmem

theorem length_of_mem_getLast?_batches {read : Nat → Word} {start len : Nat} {b : List Word}
    (h : b ∈ (batches read start len).getLast?) : 0 < b.length ∧ b.length ≤ scanChunkWords := by
  have hmem : b.length ∈ ((batches read start len).map List.length).getLast? := by
    rw [List.getLast?_map, Option.mem_def, Option.map_eq_some_iff]
    exact ⟨b, h, rfl⟩
  rw [batches, map_length_batches_go] at hmem
  exact bounds_of_mem_getLast?_batchSizes hmem

theorem batches_zero (read : Nat → Word) (start : Nat) : batches read start 0 = [] := by
  rw [batches, batchSizes_zero]
  rfl

/-! ## The calls of a cycle -/

section

variable {n : Type → Type} [Monad n] [RootCollector n]

@[simp] theorem lift_collectStart :
    (collectStart : StateT RootScanner n Unit) = StateT.lift collectStart := rfl

@[simp] theorem lift_collectRoots (words : List Word) :
    (collectRoots words : StateT RootScanner n Unit) = StateT.lift (collectRoots words) := rfl

@[simp] theorem lift_collectRootRange (start len : Nat) :
    (collectRootRange start len : StateT RootScanner n Unit) =
      StateT.lift (collectRootRange start len) := rfl

@[simp] theorem lift_collectEnd :
    (collectEnd : StateT RootScanner n Unit) = StateT.lift collectEnd := rfl

variable [LawfulMonad n]

/-- On the scanner's state, a collector that keeps to its own state makes its own calls. -/
theorem cycle_lift (snapshot : RegisterSnapshot) (words : Nat) :
    (cycle snapshot words : StateT RootScanner n Unit) = StateT.lift (cycle snapshot words) := by
  ext s
  by_cases h : words > 0 <;> simp [cycle, h]

/-- A collector that reads ranges the default way hands over the registers, then the stack
words in batches. -/
theorem cycle_of_readRange (memory : Nat → Word)
    (hrange : ∀ start len, (collectRootRange start len : n Unit) =
      readRange memory collectRoots start len)
    (snapshot : RegisterSnapshot) (words : Nat) :
    (cycle snapshot words : n Unit) = (do
      collectStart
      collectRoots snapshot.registers
      (batches memory snapshot.stackPointer words).forM collectRoots
      collectEnd) := by
  unfold cycle
  by_cases h : words > 0
  · simp [h, hrange, readRange]
  · obtain rfl : words = 0 := by omega
    simp [batches_zero]

end

end RootCollector

namespace ToyHeap

/-- Marking changes nothing but the marked objects. -/
theorem exists_mark_eq (h : ToyHeap) (words : List Word) :
    ∃ m, h.mark words = { h with marked := m } := by
  induction words generalizing h with
  | nil => exact ⟨h.marked, rfl⟩
  | cons w ws ih =>
    rw [mark, List.foldl_cons, ← mark]
    split
    · exact ih _
    · exact ih h

@[simp] theorem objects_mark (h : ToyHeap) (words : List Word) :
    (h.mark words).objects = h.objects := by
  obtain ⟨m, hm⟩ := exists_mark_eq h words
  rw [hm]

@[simp] theorem cycles_mark (h : ToyHeap) (words : List Word) :
    (h.mark words).cycles = h.cycles := by
  obtain ⟨m, hm⟩ := exists_mark_eq h words
  rw [hm]

@[simp] theorem inCycle_mark (h : ToyHeap) (words : List Word) :
    (h.mark words).inCycle = h.inCycle := by
  obtain ⟨m, hm⟩ := exists_mark_eq h words
  rw [hm]

theorem mark_append (h : ToyHeap) (ws ws' : List Word) :
    h.mark (ws ++ ws') = (h.mark ws).mark ws' :=
  List.foldl_append

/-- A word is marked once it was, or once an object equal to it was reported. -/
theorem mem_marked_mark (h : ToyHeap) (words : List Word) (o : Word) :
    o ∈ (h.mark words).marked ↔ o ∈ h.marked ∨ (o ∈ h.objects ∧ o ∈ words) := by
  induction words generalizing h with
  | nil => simp [mark]
  | cons w ws ih =>
    rw [mark, List.foldl_cons, ← mark, ih]
    by_cases hw : h.objects.contains w && !h.marked.contains w
    · -- `w` is an object not yet marked: it is marked now
      have hobj : w ∈ h.objects := by simpa using ((Bool.and_eq_true _ _).mp hw).1
      rw [if_pos hw]
      simp only [List.mem_append, List.mem_cons, List.not_mem_nil, or_false]
      grind
    · -- `w` is no object, or is marked already: nothing changes
      have hmarked : w ∈ h.objects → w ∈ h.marked := by
        intro hobj
        by_contra hnot
        exact hw (by simp [hobj, hnot])
      rw [if_neg hw]
      simp only [List.mem_cons]
      grind

/-- **The sweep keeps what the roots name.** Marking from no marks, the objects kept are those some
word equals, in allocation order. -/
theorem filter_mark_marked {h : ToyHeap} (hm : h.marked = []) (words : List Word) :
    h.objects.filter (h.mark words).marked.contains = h.objects.filter (· ∈ words) := by
  apply List.filter_congr
  intro o ho
  rw [Bool.eq_iff_iff, List.contains_iff_mem, mem_marked_mark, decide_eq_true_iff, hm]
  simp [ho]

/-! ### The heap's own checks

A cycle opens only on an idle heap, roots are taken only inside a cycle, and the count of cycles
is a 32-bit number whose addition is checked. -/

theorem start_run {h : ToyHeap} (hidle : h.inCycle = false) :
    start.run h = pure ((), { h with inCycle := true, marked := [] }) := by
  simp only [start, StateT.run_bind, StateT.run_get, pure_bind, hidle, Bool.false_eq_true,
    ↓reduceIte, StateT.run_set]

theorem start_run_of_inCycle {h : ToyHeap} (hin : h.inCycle = true) :
    start.run h = throw "nested collection" := by
  simp only [start, StateT.run_bind, StateT.run_get, pure_bind, hin, ↓reduceIte, StateT.run_throw]
  -- the update after the check is never reached
  rfl

theorem roots_run (words : List Word) {h : ToyHeap} (hin : h.inCycle = true) :
    (roots words).run h = pure ((), h.mark words) := by
  simp only [roots, StateT.run_bind, StateT.run_get, pure_bind, hin, ↓reduceIte, StateT.run_set]

theorem roots_run_of_idle (words : List Word) {h : ToyHeap} (hidle : h.inCycle = false) :
    (roots words).run h = throw "roots outside a collection cycle" := by
  simp only [roots, StateT.run_bind, StateT.run_get, pure_bind, hidle, Bool.false_eq_true,
    ↓reduceIte, StateT.run_throw]
  rfl

/-- The largest count, the one whose increment is refused. -/
theorem toNat_cycles_max : (UInt32.ofNat (UInt32.size - 1)).toNat = 2 ^ 32 - 1 := by decide

theorem finish_run {h : ToyHeap} (hc : h.cycles.toNat < 2 ^ 32 - 1) :
    finish.run h = pure ((), { h with objects := h.objects.filter h.marked.contains, marked := [],
                                      inCycle := false, cycles := h.cycles + 1 }) := by
  have hne : h.cycles ≠ UInt32.ofNat (UInt32.size - 1) := by
    rintro heq
    rw [heq, toNat_cycles_max] at hc
    exact Nat.lt_irrefl _ hc
  simp only [finish, StateT.run_bind, StateT.run_get, pure_bind, hne, ↓reduceIte, StateT.run_set]

theorem finish_run_of_max {h : ToyHeap} (hc : h.cycles.toNat = 2 ^ 32 - 1) :
    finish.run h = throw "attempt to add with overflow" := by
  have heq : h.cycles = UInt32.ofNat (UInt32.size - 1) := by
    rw [← UInt32.toNat_inj, hc, toNat_cycles_max]
  simp only [finish, StateT.run_bind, StateT.run_get, pure_bind, heq, ↓reduceIte, StateT.run_throw]
  rfl

/-- Within a cycle, batch after batch marks their words. -/
theorem forM_roots_run (batches : List (List Word)) {h : ToyHeap} (hin : h.inCycle = true) :
    (batches.forM roots).run h = pure ((), h.mark batches.flatten) := by
  induction batches generalizing h with
  | nil => rfl
  | cons ws rest ih =>
    have hin' : (h.mark ws).inCycle = true := by rw [inCycle_mark, hin]
    calc ((ws :: rest).forM roots).run h = (rest.forM roots).run (h.mark ws) := by
          rw [List.forM_eq_forM, List.forM_cons, StateT.run_bind, roots_run ws hin, pure_bind]
      _ = pure ((), h.mark (ws :: rest).flatten) := by
          rw [ih hin', List.flatten_cons, mark_append]

/-- On an idle heap the start and every batch of roots pass their checks: the cycle comes down to
its end, on the heap marked from the registers and the stack words. -/
theorem cycle_run_of_idle (memory : Nat → Word) (snapshot : RegisterSnapshot) (words : Nat)
    {h : ToyHeap} (hidle : h.inCycle = false) :
    letI := collector memory
    (RootCollector.cycle snapshot words : StateT ToyHeap (Except String) Unit).run h =
      finish.run (({ h with inCycle := true, marked := [] } : ToyHeap).mark
        (snapshot.registers ++ (RootCollector.batches memory snapshot.stackPointer words).flatten)) := by
  let _ := collector memory
  rw [RootCollector.cycle_of_readRange memory (fun _ _ => rfl)]
  simp only [StateT.run_bind, RootCollector.collectStart, RootCollector.collectRoots,
    RootCollector.collectEnd, start_run hidle, pure_bind, roots_run, forM_roots_run, inCycle_mark,
    mark_append]

/-- **One cycle of the mark-sweep heap**: on an idle heap whose count can still grow, it keeps the
objects some root equals, in allocation order, and counts the cycle. -/
theorem cycle_run (memory : Nat → Word) (snapshot : RegisterSnapshot) (words : Nat) {h : ToyHeap}
    (hidle : h.inCycle = false) (hc : h.cycles.toNat < 2 ^ 32 - 1) :
    letI := collector memory
    (RootCollector.cycle snapshot words : StateT ToyHeap (Except String) Unit).run h =
      .ok ((), ⟨h.objects.filter (· ∈ snapshot.registers ++
          (RootCollector.batches memory snapshot.stackPointer words).flatten),
        [], h.cycles + 1, false⟩) := by
  let _ := collector memory
  rw [cycle_run_of_idle memory snapshot words hidle, finish_run (by rw [cycles_mark]; exact hc)]
  -- what is left is the sweep of the heap marked from the registers and the batches together
  rw [objects_mark, cycles_mark, filter_mark_marked rfl]
  rfl

/-- A cycle on a heap already in a cycle stops at its start. -/
theorem cycle_run_of_inCycle (memory : Nat → Word) (snapshot : RegisterSnapshot) (words : Nat)
    {h : ToyHeap} (hin : h.inCycle = true) :
    letI := collector memory
    (RootCollector.cycle snapshot words : StateT ToyHeap (Except String) Unit).run h =
      throw "nested collection" := by
  let _ := collector memory
  rw [RootCollector.cycle_of_readRange memory (fun _ _ => rfl), StateT.run_bind]
  rw [RootCollector.collectStart, start_run_of_inCycle hin]
  rfl

/-- A cycle on an idle heap whose count is at its largest stops at its end. -/
theorem cycle_run_of_max (memory : Nat → Word) (snapshot : RegisterSnapshot) (words : Nat)
    {h : ToyHeap} (hidle : h.inCycle = false) (hc : h.cycles.toNat = 2 ^ 32 - 1) :
    letI := collector memory
    (RootCollector.cycle snapshot words : StateT ToyHeap (Except String) Unit).run h =
      throw "attempt to add with overflow" := by
  let _ := collector memory
  rw [cycle_run_of_idle memory snapshot words hidle, finish_run_of_max (by rw [cycles_mark]; exact hc)]

end ToyHeap

namespace RootScanner

theorem begin_of_idle {s : RootScanner} (hs : s.scanning = false) :
    s.begin = .ok { s with scanning := true } := by
  simp [begin, hs]

@[simp] theorem stackWords_scanning (s : RootScanner) (b : Bool) (sp : Nat) :
    ({ s with scanning := b } : RootScanner).stackWords sp = s.stackWords sp := rfl

/-- **An accepted collection.** On an idle scanner the cycle's calls run with the flag up, and the
call returns normally with the flag of the state they leave lowered. -/
theorem collectFrom_run_of_idle {m : Type → Type} [Monad m] [LawfulMonad m]
    [RootCollector (StateT RootScanner m)] (snapshot : RegisterSnapshot) {s : RootScanner}
    (hs : s.scanning = false) :
    (collectFrom snapshot : StateT RootScanner m _).run s =
      (fun p => (.ok (), { p.2 with scanning := false })) <$>
        (RootCollector.cycle snapshot (s.stackWords snapshot.stackPointer) :
          StateT RootScanner m Unit).run { s with scanning := true } := by
  simp [collectFrom, begin_of_idle hs]

/-- Lowering the flag an accepted cycle raised gives the idle scanner back. -/
theorem lower_raise {s : RootScanner} (hs : s.scanning = false) :
    ({ ({ s with scanning := true } : RootScanner) with scanning := false } : RootScanner) = s := by
  cases s
  simp_all

/-- A collection by a collector that keeps to its own state makes the collector's calls of one
cycle, returns normally and leaves the scanner as it found it. -/
theorem collectFrom_run_of_lift {n : Type → Type} [Monad n] [LawfulMonad n] [RootCollector n]
    (snapshot : RegisterSnapshot) {s : RootScanner} (hs : s.scanning = false) :
    (collectFrom snapshot : StateT RootScanner n _).run s =
      (fun _ => (.ok (), s)) <$>
        (RootCollector.cycle snapshot (s.stackWords snapshot.stackPointer) : n Unit) := by
  rw [collectFrom_run_of_idle snapshot hs, RootCollector.cycle_lift, StateT.run_lift]
  simp [lower_raise hs]

theorem stackWords_eq (s : RootScanner) (sp : Nat) : s.stackWords sp = (s.stackTop - sp) / 8 := rfl

end RootScanner

/-- **A collection reports every root exactly once.** Take an idle scanner with stack top `t`
and a snapshot of registers `r` and stack pointer `sp`, and let `k = (t - sp) / 8`. Collecting
returns normally, leaves the scanner idle, and makes exactly these calls on a collector that reads
stack ranges the default way: the start, the registers, the stack words from `sp` in batches, the
end. Joined, the batches are the `k` words at `sp, sp + 8, …`, in order; there are `⌈k / 32⌉` of
them, all full but the last, which holds 1 to 32 words, and none when `sp ≥ t`. With the mark-sweep
heap as collector, on a heap in no cycle whose count can still grow, the objects that survive are
those some register or stack word equals, in allocation order, and one more cycle is counted. -/
theorem collectFrom_reports_every_root {n : Type → Type} [Monad n] [LawfulMonad n]
    [RootCollector n] (memory : Nat → Word)
    (hrange : ∀ start len, (RootCollector.collectRootRange start len : n Unit) =
      RootCollector.readRange memory RootCollector.collectRoots start len)
    (snapshot : RegisterSnapshot) (s : RootScanner) (hs : s.scanning = false) :
    let k := (s.stackTop - snapshot.stackPointer) / 8
    let batches := RootCollector.batches memory snapshot.stackPointer k
    (RootScanner.collectFrom snapshot : StateT RootScanner n _).run s = (do
        RootCollector.collectStart
        RootCollector.collectRoots snapshot.registers
        batches.forM RootCollector.collectRoots
        RootCollector.collectEnd
        pure (.ok (), s)) ∧
      batches.flatten = (List.range k).map (fun i => memory (snapshot.stackPointer + 8 * i)) ∧
      batches.length = (k + 31) / 32 ∧
      (∀ b ∈ batches.dropLast, b.length = 32) ∧
      (∀ b ∈ batches.getLast?, 1 ≤ b.length ∧ b.length ≤ 32) ∧
      (s.stackTop ≤ snapshot.stackPointer → batches = []) ∧
      ∀ h : ToyHeap, h.inCycle = false → h.cycles.toNat < 2 ^ 32 - 1 →
        letI := ToyHeap.collector memory
        ((RootScanner.collectFrom snapshot :
            StateT RootScanner (StateT ToyHeap (Except String)) _).run s).run h =
          .ok ((.ok (), s), ⟨h.objects.filter (· ∈ snapshot.registers ++ batches.flatten), [],
            h.cycles + 1, false⟩) := by
  intro k batches
  refine ⟨?calls, RootCollector.flatten_batches memory _ k, RootCollector.length_batches memory _ k,
    fun b hb => RootCollector.length_of_mem_dropLast_batches hb,
    fun b hb => RootCollector.length_of_mem_getLast?_batches hb, ?empty, fun h hidle hc => ?heap⟩
  case calls =>
    rw [RootScanner.collectFrom_run_of_lift snapshot hs, RootScanner.stackWords_eq,
      RootCollector.cycle_of_readRange memory hrange]
    simp [batches, k]
  case empty =>
    intro hle
    have hk : k = 0 := by simp only [k]; omega
    simp only [batches, hk, RootCollector.batches_zero]
  case heap =>
    let _ := ToyHeap.collector memory
    rw [RootScanner.collectFrom_run_of_lift snapshot hs, StateT.run_map,
      ToyHeap.cycle_run memory snapshot _ hidle hc]
    rfl

/-- Forty stack words go out as two batches, with a collector that reads ranges the default way.
Over a stack whose words are their own addresses, of the objects 8, 9 and 312 an idle heap keeps 8
and 312, and counts its first cycle. -/
theorem collectFrom_forty_words :
    letI := ToyHeap.collector fun a => UInt64.ofNat a
    (∀ start len, (RootCollector.collectRootRange start len : StateT ToyHeap (Except String) Unit) =
      RootCollector.readRange (fun a => UInt64.ofNat a) RootCollector.collectRoots start len) ∧
    (⟨320, false⟩ : RootScanner).scanning = false ∧
    (RootCollector.batches (fun a => UInt64.ofNat a) 0 40).length = 2 ∧
    ((RootScanner.collectFrom ⟨[], 0⟩ :
        StateT RootScanner (StateT ToyHeap (Except String)) _).run ⟨320, false⟩).run
      { objects := [8, 9, 312] } = .ok ((.ok (), ⟨320, false⟩), ⟨[8, 312], [], 1, false⟩) := by
  let _ := ToyHeap.collector fun a => UInt64.ofNat a
  have hall := collectFrom_reports_every_root (n := StateT ToyHeap (Except String))
    (fun a => UInt64.ofNat a) (fun _ _ => rfl) ⟨[], 0⟩ ⟨320, false⟩ rfl
  refine ⟨fun _ _ => rfl, rfl, hall.2.2.1, ?_⟩
  rw [hall.2.2.2.2.2.2 _ rfl (by decide), List.nil_append, hall.2.1]
  rfl

end DeviceBoot
