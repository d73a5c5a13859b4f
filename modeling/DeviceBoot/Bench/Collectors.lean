import DeviceBoot.Roots.Scanner
/-!
# Bench collectors

Collectors that watch root scans over a stack given as a list of words:

* `ScanRecorder` logs every call it receives; asked to, its first batch of each cycle asks for a
  nested collection on the scanner the cycle holds and logs how that ends;
* `ToyHeap` is a mark-sweep heap over exact word matches: a cycle keeps the objects some root
  equals, in allocation order, and is counted in a 32-bit number. The heap checks how it is called:
  a cycle started inside a cycle, roots handed over outside one, or a count past the largest 32-bit
  number stops the test with a message.

`StackScan` fixes the stack, the registers and where the stack pointer and stack top point. Its
runs of several cycles share one scanner, so each cycle starts where the last one left the flag.

Main definitions: `StackScan.record`, `StackScan.sweep`, `liveScan`.
-/

namespace DeviceBoot

/-- A stack in memory and a snapshot over it: words are at `base + 8 * i`, the stack pointer and
the stack top are word indices. -/
structure StackScan where
  stack : List Word
  registers : List Word
  sp : Nat
  top : Nat
  deriving DecidableEq, Repr

namespace StackScan

/-- Address of the stack's first word. -/
def base : Nat := 0x10000

/-- The word at an address. -/
def read (s : StackScan) (addr : Nat) : Word := s.stack.getD ((addr - base) / wordBytes) 0

/-- The scanner, bounded by the stack top. -/
def scanner (s : StackScan) : RootScanner := ⟨base + wordBytes * s.top, false⟩

/-- The snapshot: the registers, padded to six, and the stack pointer. -/
def snapshot (s : StackScan) : RegisterSnapshot :=
  ⟨s.registers ++ List.replicate (capturedRegisters - s.registers.length) 0, base + wordBytes * s.sp⟩

/-- Whole words between the stack pointer and the stack top. -/
def stackWords (s : StackScan) : Nat := s.scanner.stackWords s.snapshot.stackPointer

end StackScan

/-- One line of a scan recorder's log. -/
inductive ScanEntry where
  | start
  | roots (words : List Word)
  /-- A nested collection was tried; the error it stopped with, if any. -/
  | nested (error : Option ScanError)
  | finish
  deriving DecidableEq, Repr

/-- A mark-sweep heap of word-sized objects: the objects, those marked in the cycle under way, the
cycles finished, and whether a cycle is under way. -/
structure ToyHeap where
  objects : List Word
  marked : List Word := []
  cycles : UInt32 := 0
  inCycle : Bool := false

namespace ToyHeap

/-- Mark the objects some word equals, each once. -/
def mark (h : ToyHeap) (words : List Word) : ToyHeap :=
  words.foldl (fun h w =>
    if h.objects.contains w && !h.marked.contains w then { h with marked := h.marked ++ [w] } else h) h

/-- Start a cycle, with no object marked. A cycle already under way stops the test. -/
def start : StateT ToyHeap (Except String) Unit := do
  let h ← get
  if h.inCycle then throw "nested collection"
  set { h with inCycle := true, marked := [] }

/-- Mark the objects a batch of candidate roots equals. Outside a cycle this stops the test. -/
def roots (words : List Word) : StateT ToyHeap (Except String) Unit := do
  let h ← get
  unless h.inCycle do throw "roots outside a collection cycle"
  set (h.mark words)

/-- End the cycle: keep the marked objects and count the cycle. The count is a 32-bit number whose
addition is checked, so a count at its largest stops the test. -/
def finish : StateT ToyHeap (Except String) Unit := do
  let h ← get
  if h.cycles = UInt32.ofNat (UInt32.size - 1) then throw "attempt to add with overflow"
  set { h with objects := h.objects.filter h.marked.contains, marked := [], inCycle := false,
               cycles := h.cycles + 1 }

/-- The heap as the collector of a stack held in `memory`, which it reads the default way. -/
@[reducible] def collector (memory : Nat → Word) : RootCollector (StateT ToyHeap (Except String)) where
  collectStart := start
  collectRoots := roots
  collectRootRange := RootCollector.readRange memory roots
  collectEnd := finish

end ToyHeap

/-- A collector that logs its calls. -/
structure ScanRecorder where
  memory : Nat → Word
  /-- Start a nested collection from the first batch of a cycle. -/
  reentrant : Bool
  nestedDone : Bool := false
  log : List ScanEntry := []

namespace ScanRecorder

/-- The collector of a nested collection: it ignores every call. -/
@[reducible] def quiet : RootCollector (StateM ScanRecorder) where
  collectStart := pure ()
  collectRoots _ := pure ()
  collectRootRange _ _ := pure ()
  collectEnd := pure ()

/-- A collection asked for from inside a cycle, on the scanner the cycle shares: from a snapshot
of zero registers, with a collector of its own. -/
def nestedCollect : StateT RootScanner (StateM ScanRecorder) (Except ScanError Unit) :=
  @RootScanner.collectFrom _ _ (@RootCollector.lift _ _ quiet) ⟨List.replicate capturedRegisters 0, 0⟩

/-- A batch: log it, then, armed and not yet done this cycle, ask for a collection from inside the
cycle and log how it ends. -/
def takeBatch (words : List Word) : StateT RootScanner (StateM ScanRecorder) Unit := do
  modifyThe ScanRecorder fun r => { r with log := r.log ++ [.roots words] }
  let r ← getThe ScanRecorder
  if r.reentrant && !r.nestedDone then
    let outcome ← nestedCollect
    let error := match outcome with
      | .error e => some e
      | .ok () => none
    modifyThe ScanRecorder fun r => { r with nestedDone := true, log := r.log ++ [.nested error] }

instance collector : RootCollector (StateT RootScanner (StateM ScanRecorder)) where
  collectStart := modifyThe ScanRecorder fun r => { r with log := r.log ++ [.start] }
  collectRoots := takeBatch
  collectRootRange start len := do
    let read := (← getThe ScanRecorder).memory
    RootCollector.readRange read takeBatch start len
  collectEnd := modifyThe ScanRecorder fun r => { r with log := r.log ++ [.finish] }

end ScanRecorder

namespace StackScan

/-- Run `cycles` collections on one scanner, each with a fresh recorder: each cycle's log. -/
def record (s : StackScan) (reentrant : Bool) (cycles : Nat) : List (List ScanEntry) :=
  ((List.replicate cycles ()).foldl (fun (acc : List (List ScanEntry) × RootScanner) _ =>
    let act : StateT RootScanner (StateM ScanRecorder) (Except ScanError Unit) :=
      RootScanner.collectFrom s.snapshot
    let ((_, scanner), r) := (act.run acc.2).run { memory := s.read, reentrant := reentrant }
    (acc.1 ++ [r.log], scanner)) ([], s.scanner)).1

/-- Run `cycles` collections on one scanner over a heap of `objects`: the objects alive after each
cycle, and the heap at the end; or the message of a check of the heap that stopped the test. -/
def sweep (s : StackScan) (objects : List Word) (cycles : Nat) :
    Except String (List (List Word) × ToyHeap) :=
  letI := ToyHeap.collector s.read
  do
    let (lives, _, heap) ← (List.replicate cycles ()).foldlM
      (fun (acc : List (List Word) × RootScanner × ToyHeap) _ => do
        let act : StateT RootScanner (StateT ToyHeap (Except String)) (Except ScanError Unit) :=
          RootScanner.collectFrom s.snapshot
        let ((_, scanner), h) ← (act.run acc.2.1).run acc.2.2
        pure (acc.1 ++ [h.objects], scanner, h)) ([], s.scanner, { objects := objects })
    pure (lives, heap)

end StackScan

/-- What a scan of a live frame shows. -/
structure LiveScanReport where
  cycles : Nat
  localRootSurvived : Bool
  capturedRegisters : Nat
  spBelowTop : Bool
  deriving DecidableEq, Repr

/-- A heap object whose only reference sits in a stack slot of the frame being scanned survives a
collection: the frame's slots lie between the stack pointer and the caller's stack top. -/
def liveScan : Except String LiveScanReport := do
  let boxed : Word := 0x20000040
  let frame : StackScan := ⟨[0, boxed, 7, 0], [], 0, 4⟩
  let (_, heap) ← frame.sweep [boxed] 1
  pure { cycles := heap.cycles.toNat
         localRootSurvived := heap.objects.contains boxed
         capturedRegisters := frame.snapshot.registers.length
         spBelowTop := frame.snapshot.stackPointer < frame.scanner.stackTop }

end DeviceBoot
