import DeviceBoot.Boot.Runtime
import DeviceBoot.Console.Buffer
import DeviceBoot.Memory.Layout
import DeviceBoot.Roots.Scanner
/-!
# The boot sequence

Booting goes through fixed stages, each a function from one stage to the next, so that no step can
be skipped or repeated:

* `Boot.reset` validates the memory layout before anything is touched;
* `zeroStatic` clears static storage;
* `establishStack` records the stack top (the stack region's end), which the root scanner and the
  runtime both use;
* `initHeap` gives the runtime its stack top and heap, and `initRuntime` initialises it;
* `runEntryProgram` loads and runs the program, or `abort` gives up with a reason; either way the
  board is halted, normally or with an error;
* `Halted.shutdown` asks the firmware to end the program, after which the board only idles.

With a verbose configuration every preparing step reports `[BOOT] <step>... OK` on the standard
output channel. A failed program is reported as `[BOOT] program halted: <fault>`; each report goes
through a console of its own, after the shared console has sent what it staged.

Main definitions: `Board`, `Boot`, `Halted`, `BootPhase`.
-/

namespace DeviceBoot

/-- Where a boot stands. -/
inductive BootPhase where
  | booting
  | running
  | haltedNormal
  | haltedError
  deriving DecidableEq, Repr

namespace BootPhase

/-- Every phase, in order. -/
def all : List BootPhase := [.booting, .running, .haltedNormal, .haltedError]

/-- The boot is over. -/
def isHalted : BootPhase → Bool
  | .haltedNormal | .haltedError => true
  | _ => false

/-- The name a phase is reported under. -/
def name : BootPhase → String
  | .booting => "Booting"
  | .running => "Running"
  | .haltedNormal => "HaltedNormal"
  | .haltedError => "HaltedError"

end BootPhase

/-- What the boot sequence needs from the board besides the runtime: the firmware gate, memory
it may clear, and the shared console it lets finish before reporting. -/
class Board (m : Type → Type) extends SerialGate m where
  /-- Clear a region of memory. -/
  zeroRegion : MemoryRegion → m Unit
  /-- Send what the shared console has staged, if one is installed. -/
  flushSharedConsole : m Unit

/-- The stages of a boot. -/
inductive Stage where
  | reset
  | zeroed
  | stacked
  | heapReady
  | ready
  deriving DecidableEq, Repr

/-- A boot at a stage: the validated layout, the configuration, and the stack top, which
`establishStack` records. -/
structure Boot (s : Stage) where
  layout : MemoryLayout
  config : BootConfig
  stackTop : Nat := 0
  deriving DecidableEq, Repr

/-- A boot that has run its program or given up. -/
structure Halted where
  config : BootConfig
  phase : BootPhase
  deriving DecidableEq, Repr

variable {m : Type → Type} [Monad m] [Board m]

/-- Report a step on a fresh console when the configuration is verbose. -/
def BootConfig.progress (config : BootConfig) (step : String) : m Unit :=
  if config.verbose then Console.emit config.stdioChannel s!"[BOOT] {step}... OK\n" else pure ()

/-- Report why the program halted, after the shared console has sent what it staged. -/
def BootConfig.report (config : BootConfig) (reason : String) : m Unit := do
  Board.flushSharedConsole
  Console.emit config.stdioChannel s!"[BOOT] program halted: {reason}\n"

namespace Boot

/-- Start a boot: the layout must validate. -/
def reset (layout : MemoryLayout) (config : BootConfig) : Except LayoutError (Boot .reset) := do
  layout.validate
  pure ⟨layout, config, 0⟩

/-- Clear static storage. -/
def zeroStatic (b : Boot .reset) : m (Boot .zeroed) := do
  Board.zeroRegion b.layout.zeroInit
  b.config.progress "Zeroing static storage"
  pure ⟨b.layout, b.config, b.stackTop⟩

/-- Record the stack top: the end of the stack region. -/
def establishStack (b : Boot .zeroed) : m (Boot .stacked) := do
  b.config.progress "Recording stack top"
  pure ⟨b.layout, b.config, b.layout.stack.end⟩

/-- A root scanner bounded by the recorded stack top. -/
def rootScanner (b : Boot .stacked) : RootScanner := ⟨b.stackTop, false⟩

variable [rt : Runtime m]

/-- Tell the runtime its stack top, then give it the heap. -/
def initHeap (b : Boot .stacked) : m (Boot .heapReady) := do
  Runtime.initStack b.stackTop
  Runtime.initHeap b.layout.heap
  b.config.progress "Handing heap to runtime"
  pure ⟨b.layout, b.config, b.stackTop⟩

/-- Initialise the runtime. -/
def initRuntime (b : Boot .heapReady) : m (Boot .ready) := do
  Runtime.init
  b.config.progress "Initializing runtime"
  pure ⟨b.layout, b.config, b.stackTop⟩

/-- Load and run the image. A fault is printed as a traceback and reported, and halts the board
with an error; a clean run halts it normally. -/
def runEntryProgram (b : Boot .ready) (image : ProgramImage) : m Halted := do
  match ← loadAndRun image with
  | .ok () => pure ⟨b.config, .haltedNormal⟩
  | .error fault => do
    Runtime.printTraceback fault.fault
    b.config.report (fault.message rt.describe)
    pure ⟨b.config, .haltedError⟩

/-- Give up without running anything, reporting the reason. -/
def abort (b : Boot .ready) (reason : String) : m Halted := do
  b.config.report reason
  pure ⟨b.config, .haltedError⟩

end Boot

/-- Ask the firmware to end the program, after the shared console has sent what it staged and,
when verbose, after saying so. -/
def Halted.shutdown (h : Halted) : m Unit := do
  Board.flushSharedConsole
  if h.config.verbose then
    Console.emit h.config.stdioChannel s!"[BOOT] {h.phase.name}, requesting exit\n"
  SerialGate.requestExit

/-- One step of the idle loop after the exit request: a cooperative tick. -/
def idleStep : m Unit := SerialGate.cooperativeTick

/-- `n` idle steps. -/
def idle (n : Nat) : m Unit := (List.replicate n ()).forM fun _ => idleStep

end DeviceBoot
