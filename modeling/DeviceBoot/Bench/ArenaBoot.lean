import DeviceBoot.Bench.Board
import DeviceBoot.Bundle.Table
/-!
# Booting an arena on the bench

The whole boot sequence on a bench board whose memory is one arena of words, all regions given as
byte offsets into it, with a scripted gate. Every stage's gate events are kept apart, so a run reads
as a list of stages. A run may stop after static storage is cleared, after the runtime is
initialised, or after the program; otherwise it shuts down and idles.

Main definition: `ArenaBoot.run`.
-/

namespace DeviceBoot

/-- Where an arena boot may stop early. -/
inductive StopPoint where
  | zeroStatic
  | initRuntime
  | run
  deriving DecidableEq, Repr

/-- An arena boot to run. -/
structure ArenaBoot where
  arenaWords : Nat := 32
  fill : Word := 0x5a5a5a5a5a5a5a5a
  layout : MemoryLayout
  config : BootConfig := {}
  limits : List Nat := []
  defaultLimit : Option Nat := none
  payload : Bytes := []
  choice : ProgramChoice := .payload
  foreignContext : Bool := false
  stopAfter : Option StopPoint := none
  idleSteps : Nat := 1

/-- What an arena boot shows. -/
structure ArenaTrace where
  /-- Each stage that ran, with the gate events it caused. -/
  stages : List (String × List GateEvent)
  arenaAfterZero : Bytes
  stackTop : Option Nat := none
  scannerTop : Option Nat := none
  readyStackTop : Option Nat := none
  runtime : Option ScriptRuntime := none
  selected : Option (Except TableError Bytes) := none
  phase : Option BootPhase := none

/-- How an arena boot ended. -/
inductive ArenaOutcome where
  /-- The layout did not validate; nothing ran. -/
  | rejected (e : LayoutError)
  /-- Static storage does not lie inside the arena. -/
  | outsideArena
  | booted (trace : ArenaTrace)

/-- Handle the global namespace of a foreign context. -/
def foreignNamespace : Nat := 0x1234

namespace ArenaBoot

/-- The board at power-on: the arena filled with the fill word. -/
def board (a : ArenaBoot) : BenchBoard ScriptedGate :=
  { gate := { limits := a.limits, defaultLimit := a.defaultLimit }
    memory := (List.replicate a.arenaWords a.fill).flatMap fun w => LittleEndian.split w.toNat 8
    runtime := { contextHandle := if a.foreignContext then foreignNamespace else globalNamespace } }

/-- Run one stage on a board: its result, the board after it, and the gate events it caused. -/
def stage {α : Type} (act : StateM (BenchBoard ScriptedGate) α) (b : BenchBoard ScriptedGate) :
    α × BenchBoard ScriptedGate × List GateEvent :=
  let (x, b') := act.run b
  (x, b', b'.gate.log.drop b.gate.log.length)

/-- Run the boot. -/
def run (a : ArenaBoot) : ArenaOutcome :=
  match Boot.reset a.layout a.config with
  | .error e => .rejected e
  | .ok boot =>
    if a.layout.zeroInit.end > wordBytes * a.arenaWords then .outsideArena else
    let (zeroed, b1, e1) := stage boot.zeroStatic a.board
    let trace : ArenaTrace :=
      { stages := [("reset", []), ("zero_static", e1)], arenaAfterZero := b1.memory }
    if a.stopAfter = some .zeroStatic then .booted trace else
    let (stacked, b2, e2) := stage zeroed.establishStack b1
    let (heapReady, b3, e3) := stage stacked.initHeap b2
    let (ready, b4, e4) := stage heapReady.initRuntime b3
    let trace := { trace with
      stages := trace.stages ++ [("establish_stack", e2), ("init_heap", e3), ("init_runtime", e4)]
      stackTop := some stacked.stackTop
      scannerTop := some stacked.rootScanner.stackTop
      readyStackTop := some ready.stackTop }
    if a.stopAfter = some .initRuntime then .booted { trace with runtime := some b4.runtime } else
    let image (p : Bytes) : ProgramImage := ⟨SignatureHeader.standard, p⟩
    let (selected, act) : Option (Except TableError Bytes) × StateM (BenchBoard ScriptedGate) Halted :=
      match a.choice with
      | .payload => (none, ready.runEntryProgram (image a.payload))
      | .abort reason => (none, ready.abort reason)
      | .linked bundle =>
        match selectEntry bundle a.payload with
        | .ok p => (some (.ok p), ready.runEntryProgram (image p))
        | .error e => (some (.error e), ready.abort e.message)
    let (halted, b5, e5) := stage act b4
    let trace := { trace with
      stages := trace.stages ++ [("run", e5)], selected := selected, phase := some halted.phase }
    if a.stopAfter = some .run then .booted { trace with runtime := some b5.runtime } else
    let (_, b6, e6) := stage halted.shutdown b5
    let (_, b7, e7) := stage (idle a.idleSteps) b6
    .booted { trace with
      stages := trace.stages ++ [("shutdown", e6), ("idle", e7)], runtime := some b7.runtime }

end ArenaBoot

end DeviceBoot
