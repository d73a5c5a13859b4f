import DeviceBoot.Config
/-!
# Scanning for garbage-collection roots

A collection cycle reports every word that may point into the heap: the captured registers, then
the stack words from the stack pointer up to the recorded stack top. A collector receives them
through `RootCollector`: a start, any number of root batches, an end. By default a stack range is
read word by word and handed over in batches of at most `scanChunkWords`.

The scanner is shared by everyone who holds it, collector callbacks included, so a cycle runs in
the state monad of the scanner (`StateT RootScanner`). While a cycle runs the scanner's flag is up,
and a collection asked for meanwhile, from a callback at any depth, stops at once with
`ScanError.reentrant`, without any collector call and without touching the flag. The cycle lowers
the flag as it returns.

Main definitions: `RootScanner.collectFrom`, `RootCollector.cycle`, `RootScanner.stackWords`,
`RootCollector.batches`.
-/

namespace DeviceBoot

/-- Why a collection could not run. -/
inductive ScanError where
  /-- A cycle on the same scanner is still running. -/
  | reentrant
  deriving DecidableEq, Repr

/-- The text a scan error is reported with. -/
def ScanError.message : ScanError → String
  | .reentrant => "a collection cycle is already in progress"

/-- Words handed to a collector at once when a stack range is read. -/
def scanChunkWords : Nat := 32

/-- Registers and stack pointer captured at the start of a scan. -/
structure RegisterSnapshot where
  registers : List Word
  stackPointer : Nat
  deriving DecidableEq, Repr

/-- A root scanner: the stack top recorded at boot, and whether a cycle is running. -/
structure RootScanner where
  stackTop : Nat
  scanning : Bool := false
  deriving DecidableEq, Repr

/-- A garbage collector's side of a root scan, in the monad `m` its calls run in. -/
class RootCollector (m : Type → Type) where
  /-- A cycle starts. -/
  collectStart : m Unit
  /-- A batch of candidate words. -/
  collectRoots : List Word → m Unit
  /-- The stack range of `len` words from address `start`. -/
  collectRootRange : Nat → Nat → m Unit
  /-- The cycle ends. -/
  collectEnd : m Unit

namespace RootCollector

/-- The batch sizes a range of `len` words is read in: full batches, then the rest. -/
def batchSizes (len : Nat) : List Nat :=
  if len = 0 then []
  else if len ≤ scanChunkWords then [len]
  else scanChunkWords :: batchSizes (len - scanChunkWords)
termination_by len
decreasing_by simp [scanChunkWords] at *; omega

/-- The words of a range read through `read`, in batches of at most `scanChunkWords`. -/
def batches (read : Nat → Word) (start len : Nat) : List (List Word) :=
  go start (batchSizes len)
where
  go (addr : Nat) : List Nat → List (List Word)
    | [] => []
    | n :: rest => ((List.range n).map fun i => read (addr + wordBytes * i)) :: go (addr + wordBytes * n) rest

/-- Hand a range over batch by batch, reading memory through `read`. -/
def readRange [Monad m] (read : Nat → Word) (roots : List Word → m Unit) (start len : Nat) :
    m Unit :=
  (batches read start len).forM roots

/-- The calls of one cycle: start, the registers, the stack range of `words` words from the
stack pointer (if there are any), end. -/
def cycle [Monad m] [RootCollector m] (snapshot : RegisterSnapshot) (words : Nat) : m Unit := do
  collectStart
  collectRoots snapshot.registers
  if words > 0 then collectRootRange snapshot.stackPointer words
  collectEnd

/-- A collector that keeps to its own state: on the scanner's state its calls are those of a
collector of the monad below, and leave the scanner as it is. -/
instance lift [Monad m] [RootCollector m] : RootCollector (StateT RootScanner m) where
  collectStart := StateT.lift collectStart
  collectRoots words := StateT.lift (collectRoots words)
  collectRootRange start len := StateT.lift (collectRootRange start len)
  collectEnd := StateT.lift collectEnd

end RootCollector

namespace RootScanner

/-- Whole words between the stack pointer and the stack top; none if the pointer is above it. -/
def stackWords (s : RootScanner) (sp : Nat) : Nat := (s.stackTop - sp) / wordBytes

/-- Claim the scanner for a cycle, unless one is running. -/
def begin (s : RootScanner) : Except ScanError RootScanner :=
  if s.scanning then .error .reentrant else .ok { s with scanning := true }

variable {m : Type → Type} [Monad m] [RootCollector (StateT RootScanner m)]

/-- One collection cycle on the shared scanner, from a snapshot: start, the registers, the stack
words from the stack pointer to the stack top (if any), end. A busy scanner refuses and calls
nothing. -/
def collectFrom (snapshot : RegisterSnapshot) : StateT RootScanner m (Except ScanError Unit) := do
  match (← get).begin with
  | .error e => pure (.error e)
  | .ok busy =>
    set busy
    RootCollector.cycle snapshot (busy.stackWords snapshot.stackPointer)
    -- the cycle's guard lowers the flag as the call returns
    modify fun s => { s with scanning := false }
    pure (.ok ())

theorem collectFrom_busy [LawfulMonad m] (snapshot : RegisterSnapshot) (s : RootScanner)
    (h : s.scanning = true) :
    (collectFrom snapshot : StateT RootScanner m _).run s = pure (.error .reentrant, s) := by
  simp [collectFrom, begin, h]

end RootScanner

end DeviceBoot
