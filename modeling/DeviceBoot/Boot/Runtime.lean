import DeviceBoot.Image.Header
import DeviceBoot.Memory.Region
/-!
# The managed runtime and the program loader

The bytecode interpreter is a collaborator the boot layer drives through `Runtime m`: it is told
the stack top and its heap, initialised once, then asked for a fresh execution context, to decode a
payload in that context into a program, and to run the program. Decoding and running can fail with
the runtime's own faults; a failed run's fault can be printed as a traceback.

`loadAndRun` is the loader: one context, one decode, one call, and the fault tagged with the step
that raised it.

Main definitions: `Runtime`, `ExecutionFault`, `loadAndRun`.
-/

namespace DeviceBoot

/-- A program image: its signature header and the bytecode payload. -/
structure ProgramImage where
  header : SignatureHeader
  payload : Bytes
  deriving DecidableEq, Repr

/-- The interpreter, as the boot layer drives it in the monad `m`. -/
class Runtime (m : Type → Type) where
  /-- A decoded, callable program. -/
  Program : Type
  /-- What decoding or running can fail with. -/
  Fault : Type
  /-- The text of a fault. -/
  describe : Fault → String
  /-- Record the top of the stack the interpreter runs on. -/
  initStack : Nat → m Unit
  /-- Hand the heap region to the interpreter. -/
  initHeap : MemoryRegion → m Unit
  /-- Initialise the interpreter. -/
  init : m Unit
  /-- A fresh execution context: the handle of its global namespace. -/
  newContext : m Nat
  /-- Decode a payload in a context. -/
  decode : Nat → Bytes → m (Except Fault Program)
  /-- Run a program with no arguments. -/
  call0 : Program → m (Except Fault Unit)
  /-- Print the traceback of a fault. -/
  printTraceback : Fault → m Unit

/-- A program that could not be run, and the runtime fault behind it. -/
inductive ExecutionFault (φ : Type) where
  /-- The payload did not decode. -/
  | decode (fault : φ)
  /-- The program raised and nothing caught it. -/
  | execute (fault : φ)
  deriving DecidableEq, Repr

namespace ExecutionFault

/-- The runtime fault carried. -/
def fault {φ : Type} : ExecutionFault φ → φ
  | .decode f => f
  | .execute f => f

/-- The text of an execution fault, given the text of the runtime's faults. -/
def message {φ : Type} (describe : φ → String) : ExecutionFault φ → String
  | .decode f => s!"bytecode could not be loaded: {describe f}"
  | .execute f => s!"unhandled fault in program: {describe f}"

end ExecutionFault

/-- Load and run an image: a fresh context, the payload decoded in it, the program called. -/
def loadAndRun {m : Type → Type} [Monad m] [rt : Runtime m] (image : ProgramImage) :
    m (Except (ExecutionFault rt.Fault) Unit) := do
  let context ← Runtime.newContext
  match ← Runtime.decode context image.payload with
  | .error f => pure (.error (.decode f))
  | .ok program =>
    match ← Runtime.call0 program with
    | .error f => pure (.error (.execute f))
    | .ok () => pure (.ok ())

end DeviceBoot
