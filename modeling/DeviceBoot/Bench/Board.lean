import DeviceBoot.Bench.Gates
import DeviceBoot.Bench.Script
import DeviceBoot.Boot.Sequence
import DeviceBoot.Memory.Zero
/-!
# Bench boards

A bench board is a gate model, a byte memory and the script runtime, run in `StateM`. It is a
`Board` (the gate, clearing memory, no shared console) and a `Runtime` (the script runtime, which
records its stack top and heap and, unless told not to, the text of every traceback).

Main definitions: `BenchBoard`, `BenchBoard.step`.
-/

namespace DeviceBoot

/-- How the program is chosen. -/
inductive ProgramChoice where
  /-- Run the payload. -/
  | payload
  /-- Take the entry of a linked bundle, falling back to the payload. -/
  | linked (bundle : Bytes)
  /-- Give up with a reason. -/
  | abort (reason : String)
  deriving DecidableEq, Repr

/-- A board on the bench. -/
structure BenchBoard (γ : Type) where
  gate : γ
  memory : Memory
  runtime : ScriptRuntime := {}
  /-- Whether failed programs leave a traceback; a runtime may keep the default of printing none. -/
  printsTracebacks : Bool := true

namespace BenchBoard

variable {γ : Type} [GateModel γ]

instance : GateModel (BenchBoard γ) where
  write b channel data :=
    let (n, g) := GateModel.write b.gate channel data
    (n, { b with gate := g })
  tick b := { b with gate := GateModel.tick b.gate }
  exit b := { b with gate := GateModel.exit b.gate }

instance : Board (StateM (BenchBoard γ)) where
  toSerialGate := inferInstance
  zeroRegion r := modify fun b => { b with memory := b.memory.zero r }
  flushSharedConsole := pure ()

/-- Change the runtime's state. -/
def withRuntime {α : Type} (f : ScriptRuntime → α × ScriptRuntime) : StateM (BenchBoard γ) α :=
  modifyGet fun b =>
    let (a, r) := f b.runtime
    (a, { b with runtime := r })

instance : Runtime (StateM (BenchBoard γ)) where
  Program := ScriptProgram
  Fault := String
  describe := id
  initStack top := withRuntime fun r => ((), { r with stackTop := some top })
  initHeap heap := withRuntime fun r => ((), { r with heap := some heap })
  init := withRuntime fun r => ((), { r with initialized := r.initialized + 1 })
  newContext := withRuntime ScriptRuntime.newContext
  decode handle payload := pure (ScriptRuntime.decode handle payload)
  call0 p := withRuntime fun r => r.call0 p
  printTraceback f := modify fun b =>
    if b.printsTracebacks then { b with runtime := { b.runtime with tracebacks := b.runtime.tracebacks ++ [f] } }
    else b

end BenchBoard

end DeviceBoot
