import DeviceBoot.Bench.Device
import DeviceBoot.Bundle.Table
/-!
# The device start-up path on the bench

`DeviceStart.run` follows the device program's start-up path on the bench machine: the boot
sequence with the interpreter as its runtime, the shared console installed right after static
storage is cleared, the root scanner installed once the stack top is known, the interpreter
claimed before the heap is handed over, and the program (the linked bundle's entry, or the built-in
payload) run before the device shuts down and idles. The bench writes a stage marker on the trail
before every step and notes what each installation and claim answered.

Output before the shared console exists is dropped, and a collection before a scanner exists
does nothing; the run starts by trying both.

`DirectRun.run` drives the interpreter binding alone, with no sequencer and no console: claim,
stack top and heap, initialise, one context, one decode, one call, and a traceback on a fault.

A panic ends either run where it happens; the outcome keeps the machine as it was then.

Main definitions: `DeviceStart`, `DeviceStart.run`, `DirectRun.run`, `DeviceOutcome`.
-/

namespace DeviceBoot

open DeviceBench

/-- Which root scanner the collector gets. -/
inductive ScannerChoice where
  /-- A scanner bounded by the frame of the start-up routine. -/
  | live
  /-- The boot's own scanner, bounded by the recorded stack top. -/
  | boot
  /-- No scanner. -/
  | none
  deriving DecidableEq, Repr

/-- A start-up run to make. -/
structure DeviceStart where
  arenaWords : Nat := 32
  fill : Word := 0x5a5a5a5a5a5a5a5a
  layout : MemoryLayout
  config : BootConfig := {}
  limits : List Nat := []
  defaultLimit : Option Nat := none
  payload : Bytes := []
  linked : Option Bytes := none
  raiseAt : RaisePoint := .none
  scanner : ScannerChoice := .live
  prints : Option (List String) := none
  idleTicks : Nat := 1
  deriving DecidableEq, Repr

/-- How a run on the bench machine ended. -/
inductive DeviceOutcome where
  /-- The layout was refused; the trail so far. -/
  | rejected (e : LayoutError) (trail : List TrailEntry)
  /-- Static storage does not lie inside the arena. -/
  | outsideArena
  /-- The run ended, with the panic message if a panic ended it. -/
  | finished (bench : DeviceBench) (panic : Option String)
  deriving DecidableEq, Repr

/-- Run a program on a bench machine. A raise that escapes every frame ends the program as
`Globals.nlrJumpFail` does. -/
def DeviceBench.run (act : DeviceM Unit) (b : DeviceBench) : DeviceOutcome :=
  match act.run.run b with
  | .ok (.ok ()) b => .finished b none
  | .ok (.error e) b => .finished b (some s!"uncaught exception {Hex.prefixed e.handle} with no handler")
  | .error msg b => .finished b (some msg)

namespace DeviceStart

/-- The bench machine at power-on: the arena filled with the fill word. -/
def bench (d : DeviceStart) : DeviceBench :=
  { limits := d.limits, defaultLimit := d.defaultLimit
    memory := (List.replicate d.arenaWords d.fill).flatMap fun w => LittleEndian.split w.toNat 8
    interp := { raiseAt := d.raiseAt } }

/-- Install the chosen root scanner (the live one twice), noting the answers. -/
def installScanner (choice : ScannerChoice) (b : Boot .stacked) : DeviceM Unit :=
  match choice with
  | .live => do
    let first ← Globals.installRootScanner ⟨hostStartFrame, false⟩
    let again ← Globals.installRootScanner ⟨hostStartFrame, false⟩
    note fun n => { n with scannerInstall := some first, scannerInstallAgain := some again }
  | .boot => do
    let first ← Globals.installRootScanner b.rootScanner
    note fun n => { n with scannerInstall := some first }
  | .none => pure ()

/-- The program image to run, or the reason to give up. -/
def program (d : DeviceStart) : Except TableError ProgramImage :=
  match d.linked with
  | some bundle => (selectEntry bundle d.payload).map fun p => ⟨SignatureHeader.standard, p⟩
  | none => .ok ⟨SignatureHeader.standard, d.payload⟩

/-- From the heap hand-over to the idle loop, with the interpreter as the runtime. -/
def finish (d : DeviceStart) (b : Boot .stacked) : StateT MicroPython DeviceM Unit := do
  stage "init_heap"
  let b ← b.initHeap
  stage "init_runtime"
  let b ← b.initRuntime
  stage "run"
  let halted ← match d.program with
    | .ok image => b.runEntryProgram image
    | .error e => b.abort e.message
  note fun n => { n with phase := some halted.phase }
  stage "shutdown"
  halted.shutdown
  idle d.idleTicks

/-- The start-up path after a layout has been accepted. -/
def boot (d : DeviceStart) (b : Boot .reset) : DeviceM Unit := do
  stage "zero_static"
  let b ← b.zeroStatic
  let first ← Globals.installConsole d.config.stdioChannel
  let again ← Globals.installConsole d.config.stdioChannel
  note fun n => { n with consoleInstall := some first, consoleInstallAgain := some again }
  match d.prints with
  | some texts => do
    texts.forM Globals.println
    Globals.print "[tail]"
    Globals.println ""
  | none => pure ()
  stage "establish_stack"
  let b ← b.establishStack
  note fun n => { n with stackTop := some b.stackTop }
  installScanner d.scanner b
  let runtime ← MicroPython.take
  let again ← MicroPython.take
  note fun n => { n with takeAgain := match again with | .error e => some e | .ok _ => none }
  match runtime with
  | .error e => Processor.panic e.message
  | .ok rt => do
    let _ ← (d.finish b).run rt
    pure ()

/-- The whole start-up path; the layout error if the layout is refused. -/
def sequence (d : DeviceStart) : DeviceM (Option LayoutError) := do
  Globals.println "[early] dropped"
  Globals.write "dropped".toUTF8.toList
  Globals.tryFlush
  Globals.gcCollect
  stage "reset"
  match Boot.reset d.layout d.config with
  | .error e => pure (some e)
  | .ok b => do
    d.boot b
    pure none

/-- Run the start-up path. A valid layout whose static storage lies outside the arena is not run. -/
def run (d : DeviceStart) : DeviceOutcome :=
  match Boot.reset d.layout d.config with
  | .ok _ =>
    if d.layout.zeroInit.end > wordBytes * d.arenaWords then .outsideArena
    else DeviceBench.run (do let _ ← d.sequence) d.bench
  | .error e =>
    match (d.sequence.run.run d.bench) with
    | .ok _ b => .rejected e b.trail
    | .error _ b => .rejected e b.trail

end DeviceStart

/-- A run of the interpreter binding alone. -/
structure DirectRun where
  payload : Bytes := []
  raiseAt : RaisePoint := .none
  deriving DecidableEq, Repr

/-- The heap of a direct run: sixteen words, whose end is also the stack top. -/
def directHeap : MemoryRegion := ⟨0, 16 * wordBytes, .heap⟩

namespace DirectRun

/-- Claim, prepare, decode and call, noting what each step answered. -/
def sequence (d : DirectRun) : DeviceM Unit := do
  match ← MicroPython.take with
  | .error e => Processor.panic e.message
  | .ok rt => do
    let go : StateT MicroPython DeviceM Unit := do
      Runtime.initStack directHeap.end
      Runtime.initHeap directHeap
      Runtime.init
      let context ← MicroPython.newContext
      note fun n => { n with contextIsNull := some (context = 0) }
      match ← MicroPython.decode context d.payload with
      | .error e => do
        note fun n => { n with fault := some (some e) }
        MicroPython.printTraceback e
      | .ok f => do
        note fun n => { n with decodedIsNull := some f.isNull }
        match ← MicroPython.call0 f with
        | .ok () => note fun n => { n with fault := some none }
        | .error e => do
          note fun n => { n with fault := some (some e) }
          MicroPython.printTraceback e
    let _ ← go.run rt
    pure ()

/-- Run the binding alone on a fresh bench machine. -/
def run (d : DirectRun) : DeviceOutcome :=
  DeviceBench.run d.sequence { interp := { raiseAt := d.raiseAt } }

end DirectRun

end DeviceBoot
