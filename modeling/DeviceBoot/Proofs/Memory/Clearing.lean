import Mathlib
import DeviceBoot.Bench.Board
import DeviceBoot.Proofs.Memory.Regions
import DeviceBoot.Proofs.Memory.Validation
/-!
# Clearing a region, store by store

The device clears a region with two loops (`Memory.zeroRegion`): zero words from the start up to
the last word boundary the region's length reaches, then zero bytes from where the word loop
stopped up to the end. The loops' stores do not depend on memory, so they are a list
(`MemoryRegion.zeroStores`): `zeroStores_eq` says which, `len / 8` words and then `len % 8` bytes,
none at all for an inverted region.

Memory is then followed store by store. After `k` word stores from an aligned start it is the
original cleared on `[start, start + 8k)` (`foldlM_words`); the bytes go on from there
(`foldlM_bytes`); and a clearing followed by one that starts where it ends is a single clearing
(`zero_zero_adjacent`). So the loops clear exactly the region and keep every other byte
(`zeroRegion_eq_some_zero`).

At boot, static storage is cleared on the bench board before anything else touches memory. The
gate's calls leave memory alone (`GateModel.Keeps`, a frame condition carried from one write and
one tick through `send` and the console), so `zeroStatic` changes memory only by clearing static
storage. A layout that `Boot.reset` accepts starts static storage on a word boundary and keeps it
apart from the stack and the heap.

Main statement: `zeroing_clears_exactly_the_region`.
-/

namespace DeviceBoot

namespace Memory

variable (mem : Memory)

/-- A byte of the region reads zero once the region is cleared. -/
theorem getElem?_zero_of_contains {r : MemoryRegion} {addr : Nat} (h : r.contains addr = true) :
    (mem.zero r)[addr]? = mem[addr]?.map fun _ => 0 := by
  simp [getElem?_zero, h]

/-- A byte outside the region is kept. -/
theorem getElem?_zero_of_not_contains {r : MemoryRegion} {addr : Nat} (h : r.contains addr = false) :
    (mem.zero r)[addr]? = mem[addr]? := by
  simp [getElem?_zero, h]

/-- Clearing depends only on the addresses a region holds. -/
theorem zero_congr {r o : MemoryRegion} (h : ∀ addr, r.contains addr = o.contains addr) :
    mem.zero r = mem.zero o := by
  simp only [zero, h]

/-- Clearing a region that holds no address changes nothing. -/
theorem zero_of_end_le_start {r : MemoryRegion} (h : r.end ≤ r.start) : mem.zero r = mem := by
  apply List.ext_getElem?
  intro addr
  have hout : r.contains addr = false :=
    Bool.eq_false_iff.mpr fun hc => by rw [MemoryRegion.contains_iff] at hc; omega
  exact getElem?_zero_of_not_contains mem hout

/-- Clearing `[a, b)` and then `[b, c)` clears `[a, c)`. -/
theorem zero_zero_adjacent {a b c : Nat} (hab : a ≤ b) (hbc : b ≤ c) (p q : RegionPurpose) :
    (mem.zero ⟨a, b, p⟩).zero ⟨b, c, q⟩ = mem.zero ⟨a, c, p⟩ := by
  apply List.ext_getElem?
  intro addr
  rw [getElem?_zero, getElem?_zero, getElem?_zero, Option.map_map]
  congr 1
  funext v
  simp only [Function.comp_apply, MemoryRegion.contains_iff]
  split_ifs <;> grind

/-- A zero byte stored is the one-byte region at its address cleared. -/
theorem set_zero (addr : Nat) (p : RegionPurpose) :
    mem.set addr 0 = mem.zero ⟨addr, addr + 1, p⟩ := by
  apply List.ext_getElem?
  intro a
  rw [getElem?_zero, List.getElem?_set]
  by_cases h : addr = a
  · subst h
    by_cases hlt : addr < mem.length
    · simp [hlt, MemoryRegion.contains_iff]
    · simp [hlt]
  · have hout : ¬ (addr ≤ a ∧ a ≤ addr) := by omega
    simp [h, MemoryRegion.contains_iff, hout]

/-- Zero bytes written from `addr` clear as many addresses from there. -/
theorem writeBytes_replicate_zero (addr n : Nat) (p : RegionPurpose) :
    mem.writeBytes addr (List.replicate n 0) = mem.zero ⟨addr, addr + n, p⟩ := by
  induction n generalizing addr mem with
  | zero =>
    rw [zero_of_end_le_start mem (Nat.le_refl _)]
    rfl
  | succ n ih =>
    rw [List.replicate_succ, writeBytes, ih, set_zero mem addr p,
      zero_zero_adjacent _ (by omega) (by omega), Nat.add_right_comm, Nat.add_assoc]

/-- A zero word stored at an aligned address clears the word's eight bytes. -/
theorem storeWord_zero {addr : Nat} (h : addr % wordBytes = 0) (p : RegionPurpose) :
    mem.storeWord addr 0 = some (mem.zero ⟨addr, addr + wordBytes, p⟩) := by
  rw [storeWord, if_pos h, ← writeBytes_replicate_zero]
  rfl

end Memory

namespace MemoryRegion

/-- The word loop `k` words short of its end stores at `start`, `start + 8`, … and stops `k`
words on. -/
theorem wordLoop_eq (start k : Nat) :
    wordLoop start (start + k * wordBytes) =
      ((List.range k).map (fun i => start + i * wordBytes), start + k * wordBytes) := by
  induction k generalizing start with
  | zero => simp [wordLoop]
  | succ k ih =>
    rw [wordLoop, if_pos (by simp only [wordBytes]; omega)]
    have h := ih (start + wordBytes)
    rw [show start + wordBytes + k * wordBytes = start + (k + 1) * wordBytes by ring] at h
    rw [h, List.range_succ_eq_map]
    refine Prod.ext ?_ rfl
    simp only [List.map_cons, List.map_map]
    congr 1
    refine List.map_congr_left fun i _ => ?_
    simp only [Function.comp_apply, Nat.succ_eq_add_one]
    ring

/-- The byte loop stores at every address from `byte` up to `stop`. -/
theorem byteLoop_eq (byte stop : Nat) : byteLoop byte stop = List.range' byte (stop - byte) := by
  fun_induction byteLoop byte stop with
  | case1 byte hlt ih =>
    rw [ih, show stop - byte = (stop - (byte + 1)) + 1 by omega, List.range'_succ]
  | case2 byte hge =>
    rw [show stop - byte = 0 by omega]
    rfl

/-- **The stores of clearing a region.** `len / 8` words, eight bytes apart from the start, then
`len % 8` bytes from where the words end. -/
theorem zeroStores_eq (r : MemoryRegion) : r.zeroStores =
    (List.range (r.len / wordBytes)).map (fun i => ZeroStore.word (r.start + i * wordBytes)) ++
      (List.range' (r.start + r.len / wordBytes * wordBytes) (r.len % wordBytes)).map .byte := by
  -- the byte loop runs from the word loop's stop to the end, `len % 8` addresses
  have hbytes : r.end - (r.start + r.len / wordBytes * wordBytes) = r.len % wordBytes := by
    simp only [len, wordBytes]
    omega
  rw [zeroStores, wordLoop_eq, byteLoop_eq, hbytes, List.map_map]
  rfl

/-- A region that ends where it starts, or before, is cleared with no store at all. -/
theorem zeroStores_eq_nil_of_end_le_start {r : MemoryRegion} (h : r.end ≤ r.start) :
    r.zeroStores = [] := by
  have hlen : r.len = 0 := by simp only [len]; omega
  simp [zeroStores_eq, hlen]

end MemoryRegion

namespace Memory

variable (mem : Memory)

/-- **The word loop.** `k` word stores from an aligned start clear `[start, start + 8k)`. -/
theorem foldlM_words {start : Nat} (h : start % wordBytes = 0) (p : RegionPurpose) (k : Nat) :
    ((List.range k).map fun i => ZeroStore.word (start + i * wordBytes)).foldlM store mem =
      some (mem.zero ⟨start, start + k * wordBytes, p⟩) := by
  induction k with
  | zero =>
    rw [zero_of_end_le_start mem (by simp)]
    rfl
  | succ k ih =>
    have haligned : (start + k * wordBytes) % wordBytes = 0 := by
      simp only [wordBytes] at h ⊢
      omega
    rw [List.range_succ, List.map_append, List.foldlM_append, ih]
    simp only [List.map_cons, List.map_nil, List.foldlM_cons, List.foldlM_nil, bind_pure,
      Option.bind_eq_bind, Option.bind_some]
    rw [store, storeWord_zero _ haligned p, zero_zero_adjacent _ (by omega) (by omega),
      show start + k * wordBytes + wordBytes = start + (k + 1) * wordBytes by ring]

/-- **The byte loop.** `n` byte stores from `byte` clear `[byte, byte + n)`. -/
theorem foldlM_bytes (byte n : Nat) (p : RegionPurpose) :
    ((List.range' byte n).map ZeroStore.byte).foldlM store mem =
      some (mem.zero ⟨byte, byte + n, p⟩) := by
  induction n generalizing byte mem with
  | zero =>
    rw [zero_of_end_le_start mem (by simp)]
    rfl
  | succ n ih =>
    rw [List.range'_succ, List.map_cons, List.foldlM_cons, Option.bind_eq_bind]
    show (List.map ZeroStore.byte (List.range' (byte + 1) n)).foldlM store (mem.set byte 0) = _
    rw [ih, set_zero mem byte p, zero_zero_adjacent _ (by omega) (by omega), Nat.add_right_comm,
      Nat.add_assoc]

/-- **The loops clear exactly the region.** From a word-aligned start, clearing succeeds, and
memory is the region cleared. -/
theorem zeroRegion_eq_some_zero (r : MemoryRegion) (h : r.start % wordBytes = 0) :
    mem.zeroRegion r = some (mem.zero r) := by
  rw [zeroRegion, MemoryRegion.zeroStores_eq, List.foldlM_append, foldlM_words mem h r.purpose,
    Option.bind_eq_bind, Option.bind_some, foldlM_bytes _ _ _ r.purpose,
    zero_zero_adjacent _ (by omega) (by omega)]
  -- the words and the bytes end at the region's end, or at its start when it is inverted
  congr 1
  apply zero_congr
  intro addr
  rw [Bool.eq_iff_iff, MemoryRegion.contains_iff, MemoryRegion.contains_iff]
  simp only [MemoryRegion.len, wordBytes]
  omega

end Memory

/-! ## What the gate leaves alone -/

section Frame

variable {σ β α : Type}

/-- A run that leaves a part of the state as it was. -/
def Preserves (part : σ → β) (x : StateM σ α) : Prop := ∀ s, part (x.run s).2 = part s

namespace Preserves

variable {part : σ → β}

theorem of_pure (a : α) : Preserves part (pure a : StateM σ α) := fun _ => rfl

theorem bind {δ : Type} {x : StateM σ α} {f : α → StateM σ δ} (hx : Preserves part x)
    (hf : ∀ a, Preserves part (f a)) : Preserves part (x >>= f) := by
  intro s
  show part ((f (x.run s).1).run (x.run s).2).2 = part s
  rw [hf, hx]

end Preserves

/-- A part of a gate's state that neither a write nor a tick changes. -/
structure GateModel.Keeps [GateModel σ] (part : σ → β) : Prop where
  write : ∀ s channel data, part (GateModel.write s channel data).2 = part s
  tick : ∀ s, part (GateModel.tick s) = part s

namespace GateModel.Keeps

variable [GateModel σ] {part : σ → β} (h : GateModel.Keeps part)
include h

theorem writeSerial (channel : UInt32) (data : Bytes) :
    Preserves part (SerialGate.writeSerial channel data : StateM σ Nat) :=
  fun s => h.write s channel data

theorem cooperativeTick : Preserves part (SerialGate.cooperativeTick : StateM σ Unit) :=
  fun s => h.tick s

/-- A send only writes and ticks. By the loop's own induction, one case per way a write ends. -/
theorem sendRest (channel : UInt32) (bytes rest : Bytes) (stalled : Nat) :
    Preserves part (DeviceBoot.sendRest channel bytes rest stalled : StateM σ Nat) := by
  induction rest, stalled using DeviceBoot.sendRest.induct with
  | case1 stalled =>
    rw [DeviceBoot.sendRest, dif_pos rfl]
    exact Preserves.of_pure _
  | case2 rest stalled hrest ihstall ihsent =>
    rw [DeviceBoot.sendRest, dif_neg hrest]
    refine Preserves.bind (h.writeSerial channel rest) fun accepted => ?_
    dsimp only
    split_ifs with hnil hzero hstall
    · exact Preserves.of_pure _
    · exact Preserves.of_pure _
    · exact Preserves.bind h.cooperativeTick fun _ => ihstall accepted hnil hzero hstall
    · exact Preserves.bind h.cooperativeTick fun _ => ihsent accepted hzero

theorem send (channel : UInt32) (bytes : Bytes) :
    Preserves part (DeviceBoot.send channel bytes : StateM σ Nat) :=
  h.sendRest channel bytes bytes 0

theorem flush (c : Console) : Preserves part (c.flush : StateM σ Console) :=
  Preserves.bind (h.send c.channel c.buffer) fun _ => Preserves.of_pure _

theorem writeByte (c : Console) (b : UInt8) : Preserves part (c.writeByte b : StateM σ Console) := by
  unfold Console.writeByte
  dsimp only
  -- staging the byte sends at most the line it ends
  have stage : ∀ staged : Console, Preserves part
      (if b = Console.newline then (⟨staged.channel, staged.buffer ++ [b]⟩ : Console).flush
        else pure ⟨staged.channel, staged.buffer ++ [b]⟩ : StateM σ Console) := fun staged => by
    split
    · exact h.flush _
    · exact Preserves.of_pure _
  split
  · exact Preserves.bind (Preserves.of_pure c) stage
  · exact Preserves.bind (h.flush c) stage

theorem writeBytes (c : Console) (bytes : Bytes) :
    Preserves part (c.writeBytes bytes : StateM σ Console) := by
  induction bytes generalizing c with
  | nil => exact Preserves.of_pure c
  | cons b rest ih =>
    unfold Console.writeBytes
    rw [List.foldlM_cons]
    exact Preserves.bind (h.writeByte c b) ih

theorem emit (channel : UInt32) (text : String) :
    Preserves part (Console.emit channel text : StateM σ Unit) :=
  Preserves.bind (h.writeBytes _ _) fun c => Preserves.bind (h.flush c) fun _ => Preserves.of_pure ()

end GateModel.Keeps

end Frame

/-! ## Static storage at boot -/

namespace BenchBoard

variable {γ : Type} [GateModel γ]

/-- The gate's calls leave a bench board's memory alone. -/
theorem keeps_memory : GateModel.Keeps (BenchBoard.memory : BenchBoard γ → Memory) :=
  ⟨fun _ _ _ => rfl, fun _ => rfl⟩

theorem progress_memory (config : BootConfig) (step : String) :
    Preserves BenchBoard.memory (config.progress step : StateM (BenchBoard γ) Unit) := by
  unfold BootConfig.progress
  split
  · exact keeps_memory.emit _ _
  · exact Preserves.of_pure ()

/-- Clearing static storage is the only change `zeroStatic` makes to memory. -/
theorem zeroStatic_memory (b : Boot .reset) (board : BenchBoard γ) :
    ((b.zeroStatic : StateM (BenchBoard γ) (Boot .zeroed)).run board).2.memory =
      board.memory.zero b.layout.zeroInit :=
  (Preserves.bind (progress_memory b.config "Zeroing static storage") fun _ => Preserves.of_pure _)
    { board with memory := board.memory.zero b.layout.zeroInit }

end BenchBoard

/-- What a boot that `reset` accepts promises static storage: it starts on a word boundary, and
no address of the stack or the heap lies in it. -/
theorem Boot.zeroInit_of_reset {l : MemoryLayout} {config : BootConfig} {b : Boot .reset}
    (h : Boot.reset l config = .ok b) :
    b.layout = l ∧ l.zeroInit.start % wordBytes = 0 ∧
      ∀ addr, l.stack.contains addr = true ∨ l.heap.contains addr = true →
        l.zeroInit.contains addr = false := by
  unfold Boot.reset at h
  cases hv : l.validate with
  | error e => rw [hv] at h; cases h
  | ok u =>
    rw [hv] at h
    cases h
    have hreq : ∀ r ∈ l.requirements, r.1 = true := by
      rw [← reportFirst_eq_ok_iff, ← MemoryLayout.validate_eq_reportFirst, hv]
    obtain ⟨-, -, -, halign, -, -, hzs, hzh⟩ := (MemoryLayout.requirements_hold_iff l).mp hreq
    refine ⟨rfl, halign, fun addr hsh => Bool.eq_false_iff.mpr fun hz => ?_⟩
    rcases hsh with hs | hh
    · exact MemoryRegion.not_both_contains_of_overlaps_eq_false hzs addr ⟨hz, hs⟩
    · exact MemoryRegion.not_both_contains_of_overlaps_eq_false hzh addr ⟨hz, hh⟩

/-- **Clearing clears exactly the region.** The word loop stores `len / 8` words from the start and
the byte loop `len % 8` bytes from where the words end, where `len` is the saturating length; an
inverted region is cleared with no store. From a word-aligned start, on any memory, clearing
succeeds, every byte of `[start, end)` reads zero and every other byte is kept. So a boot whose
layout `reset` accepts clears static storage with these loops, and leaves every byte of the
stack and the heap as it was. -/
theorem zeroing_clears_exactly_the_region {γ : Type} [GateModel γ] :
    (∀ r : MemoryRegion, r.zeroStores =
      (List.range (r.len / wordBytes)).map (fun i => ZeroStore.word (r.start + i * wordBytes)) ++
        (List.range' (r.start + r.len / wordBytes * wordBytes) (r.len % wordBytes)).map
          ZeroStore.byte) ∧
    (∀ r : MemoryRegion, r.end < r.start → r.zeroStores = []) ∧
    (∀ (r : MemoryRegion) (mem : Memory), r.start % wordBytes = 0 →
      ∃ cleared, mem.zeroRegion r = some cleared ∧ cleared.length = mem.length ∧
        (∀ addr, r.contains addr = true → cleared[addr]? = mem[addr]?.map fun _ => 0) ∧
        ∀ addr, r.contains addr = false → cleared[addr]? = mem[addr]?) ∧
    (∀ (l : MemoryLayout) (config : BootConfig) (b : Boot .reset) (board : BenchBoard γ),
      Boot.reset l config = .ok b →
      let after := ((b.zeroStatic : StateM (BenchBoard γ) (Boot .zeroed)).run board).2.memory
      board.memory.zeroRegion l.zeroInit = some after ∧
        (∀ addr, l.zeroInit.contains addr = true → after[addr]? = board.memory[addr]?.map fun _ => 0) ∧
        ∀ addr, l.stack.contains addr = true ∨ l.heap.contains addr = true →
          after[addr]? = board.memory[addr]?) := by
  refine ⟨MemoryRegion.zeroStores_eq, fun r h => MemoryRegion.zeroStores_eq_nil_of_end_le_start h.le,
    fun r mem h => ?_, fun l config b board hreset => ?_⟩
  · exact ⟨mem.zero r, Memory.zeroRegion_eq_some_zero mem r h, Memory.length_zero mem r,
      fun addr => Memory.getElem?_zero_of_contains mem, fun addr => Memory.getElem?_zero_of_not_contains mem⟩
  · obtain ⟨rfl, halign, hapart⟩ := Boot.zeroInit_of_reset hreset
    intro after
    have hafter : after = board.memory.zero b.layout.zeroInit := BenchBoard.zeroStatic_memory b board
    rw [hafter]
    exact ⟨Memory.zeroRegion_eq_some_zero _ _ halign,
      fun addr => Memory.getElem?_zero_of_contains _,
      fun addr hsh => Memory.getElem?_zero_of_not_contains _ (hapart addr hsh)⟩

/-- Clearing 19 bytes from an aligned start: two words and three bytes. A boot over static storage
at those bytes, the stack above it and the heap above that is accepted, and clears them on a board
whose memory is all ones. -/
theorem zeroing_nineteen_bytes :
    ((⟨8, 27, .zeroInit⟩ : MemoryRegion).start % wordBytes = 0 ∧
      ∃ cleared, Memory.zeroRegion (List.replicate 32 0xff) ⟨8, 27, .zeroInit⟩ = some cleared ∧
        cleared.length = (List.replicate 32 (0xff : UInt8)).length ∧
        (∀ addr, (⟨8, 27, .zeroInit⟩ : MemoryRegion).contains addr = true →
          cleared[addr]? = (List.replicate 32 (0xff : UInt8))[addr]?.map fun _ => 0) ∧
        ∀ addr, (⟨8, 27, .zeroInit⟩ : MemoryRegion).contains addr = false →
          cleared[addr]? = (List.replicate 32 (0xff : UInt8))[addr]?) ∧
    let l : MemoryLayout := ⟨⟨8, 27, .zeroInit⟩, ⟨32, 64, .stack⟩, ⟨64, 96, .heap⟩⟩
    let board : BenchBoard ScriptedGate := { gate := {}, memory := List.replicate 96 0xff }
    Boot.reset l {} = .ok ⟨l, {}, 0⟩ ∧
      let after := ((Boot.zeroStatic ⟨l, {}, 0⟩ :
        StateM (BenchBoard ScriptedGate) (Boot .zeroed)).run board).2.memory
      board.memory.zeroRegion l.zeroInit = some after ∧
        (∀ addr, l.zeroInit.contains addr = true → after[addr]? = board.memory[addr]?.map fun _ => 0) ∧
        ∀ addr, l.stack.contains addr = true ∨ l.heap.contains addr = true →
          after[addr]? = board.memory[addr]? :=
  have hreset : Boot.reset ⟨⟨8, 27, .zeroInit⟩, ⟨32, 64, .stack⟩, ⟨64, 96, .heap⟩⟩ {} =
      .ok ⟨⟨⟨8, 27, .zeroInit⟩, ⟨32, 64, .stack⟩, ⟨64, 96, .heap⟩⟩, {}, 0⟩ := by decide
  ⟨⟨by decide, (zeroing_clears_exactly_the_region (γ := ScriptedGate)).2.2.1 _ _ (by decide)⟩,
    hreset, (zeroing_clears_exactly_the_region (γ := ScriptedGate)).2.2.2 _ _ _ _ hreset⟩

end DeviceBoot
