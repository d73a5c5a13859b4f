import DeviceBoot.Bench.Board
import DeviceBoot.Bundle.Table
/-!
# Booting separate buffers on the bench

The boot sequence over three separate word buffers (static storage, stack, heap) with a recording
gate. The buffers lie apart in memory, so real addresses never show; a run answers what held: the
layout kept, the stack top recorded once, static storage cleared, the runtime given its heap, and
the serial output. A layout can be spoiled on purpose to see the sequence refuse it before any
memory is touched.

Main definition: `BufferBoot.run`.
-/

namespace DeviceBoot

/-- A deliberate fault in the buffers' layout. -/
inductive LayoutMutation where
  /-- The heap is registered over the stack. -/
  | heapIsStack
  /-- Stack and heap swap slots. -/
  | swap
  /-- Static storage starts one byte late. -/
  | misalignStatic
  /-- The heap's bounds are swapped. -/
  | invertHeap
  deriving DecidableEq, Repr

/-- A buffer boot to run. -/
structure BufferBoot where
  writeLimit : Option Nat := none
  config : BootConfig := {}
  fill : Word := 0x5a5a
  staticWords : Nat := 16
  stackWords : Nat := 64
  heapWords : Nat := 256
  mutation : Option LayoutMutation := none
  /-- Whether failed programs leave a traceback. -/
  printsTracebacks : Bool := true
  payload : Bytes := script []
  choice : ProgramChoice := .payload
  idleSteps : Nat := 1

/-- What a buffer boot shows once it has run to the end. -/
structure BufferTrace where
  layoutKept : Bool
  gateEventsAtReset : Nat
  stackTopIsStackEnd : Bool
  scannerTopMatches : Bool
  readyTopMatches : Bool
  phase : BootPhase
  heapIsLayoutHeap : Bool
  runtime : ScriptRuntime
  serialTextBeforeShutdown : Bytes
  staticZeroed : Bool
  gate : RecordingGate

/-- How a buffer boot ended. -/
inductive BufferOutcome where
  /-- The layout did not validate; `untouched` says static storage still holds its fill. -/
  | rejected (e : LayoutError) (untouched : Bool)
  | booted (trace : BufferTrace)

namespace BufferBoot

/-- Address of the static-storage buffer. -/
def staticBase : Nat := 0x1000

/-- Gap between buffers, so that they never touch. -/
def gap : Nat := 0x100

/-- Address of the stack buffer. -/
def stackBase (t : BufferBoot) : Nat := staticBase + wordBytes * t.staticWords + gap

/-- Address of the heap buffer. -/
def heapBase (t : BufferBoot) : Nat := t.stackBase + wordBytes * t.stackWords + gap

/-- The three buffers as registered regions. -/
def buffers (t : BufferBoot) : MemoryLayout :=
  { zeroInit := ⟨staticBase, staticBase + wordBytes * t.staticWords, .zeroInit⟩
    stack := ⟨t.stackBase, t.stackBase + wordBytes * t.stackWords, .stack⟩
    heap := ⟨t.heapBase, t.heapBase + wordBytes * t.heapWords, .heap⟩ }

/-- The layout handed to the boot, spoiled as asked. -/
def layout (t : BufferBoot) : MemoryLayout :=
  let l := t.buffers
  match t.mutation with
  | none => l
  | some .heapIsStack => { l with heap := { l.stack with purpose := .heap } }
  | some .swap => { l with stack := l.heap, heap := l.stack }
  | some .misalignStatic => { l with zeroInit := { l.zeroInit with start := l.zeroInit.start + 1 } }
  | some .invertHeap => { l with heap := { l.heap with start := l.heap.end, «end» := l.heap.start } }

/-- Memory at power-on: static storage holds the fill word, stack and heap hold zeros. -/
def memory (t : BufferBoot) : Memory :=
  let fillWord := LittleEndian.split t.fill.toNat 8
  List.replicate staticBase 0 ++ (List.replicate t.staticWords fillWord).flatten ++
    List.replicate (gap + wordBytes * t.stackWords + gap + wordBytes * t.heapWords) 0

/-- The bytes of static storage. -/
def staticBytes (t : BufferBoot) (mem : Memory) : Bytes :=
  (mem.drop staticBase).take (wordBytes * t.staticWords)

/-- Run the boot. -/
def run (t : BufferBoot) : BufferOutcome :=
  let board : BenchBoard RecordingGate :=
    { gate := { writeLimit := t.writeLimit }, memory := t.memory, printsTracebacks := t.printsTracebacks }
  let layout := t.layout
  match Boot.reset layout t.config with
  | .error e => .rejected e (t.staticBytes board.memory = t.staticBytes t.memory)
  | .ok boot =>
    let act : StateM (BenchBoard RecordingGate) (Boot .stacked × Boot .ready × Halted × Bytes) := do
      let zeroed ← boot.zeroStatic
      let stacked ← zeroed.establishStack
      let heapReady ← stacked.initHeap
      let ready ← heapReady.initRuntime
      let image (p : Bytes) : ProgramImage := ⟨SignatureHeader.standard, p⟩
      let halted ← match t.choice with
        | .payload => ready.runEntryProgram (image t.payload)
        | .abort reason => ready.abort reason
        | .linked bundle =>
          match selectEntry bundle t.payload with
          | .ok p => ready.runEntryProgram (image p)
          | .error e => ready.abort e.message
      let before := (← get).gate.serialOutput t.config.stdioChannel
      halted.shutdown
      idle t.idleSteps
      pure (stacked, ready, halted, before)
    let ((stacked, ready, halted, before), b) := act.run board
    .booted
      { layoutKept := boot.layout = layout
        gateEventsAtReset := 0
        stackTopIsStackEnd := stacked.stackTop = layout.stack.end
        scannerTopMatches := stacked.rootScanner.stackTop = stacked.stackTop
        readyTopMatches := ready.stackTop = layout.stack.end
        phase := halted.phase
        heapIsLayoutHeap := b.runtime.heap = some layout.heap
        runtime := b.runtime
        serialTextBeforeShutdown := before
        staticZeroed := (t.staticBytes b.memory).all (· = 0)
        gate := b.gate }

end BufferBoot

/-- Send bytes through a recording gate: how many went out, and the gate afterwards. -/
def recordSend (writeLimit : Option Nat) (channel : UInt32) (data : Bytes) : Nat × RecordingGate :=
  (send channel data : StateM RecordingGate Nat).run { writeLimit := writeLimit }

/-- Write texts on one console over a recording gate, then close it: the gate afterwards. -/
def recordConsole (writeLimit : Option Nat) (channel : UInt32) (texts : List String) : RecordingGate :=
  let act : StateM RecordingGate Unit := do
    let c ← texts.foldlM (fun c text => c.writeStr text) (Console.mk channel [])
    c.close
  (act.run { writeLimit := writeLimit }).2

end DeviceBoot
