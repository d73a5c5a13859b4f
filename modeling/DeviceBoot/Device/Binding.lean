import DeviceBoot.Boot.Sequence
import DeviceBoot.Device.Hooks
/-!
# The interpreter as the boot layer's runtime

`MicroPython` drives the interpreter through its entry points (`Interpreter`) as a `Runtime`.
Every call that can raise runs under `protect`, so a raise comes back as a fault value.

The runtime's interface lets `newContext` answer only a handle, so a raise while the context is
made (the module object, or its globals) is kept in `pending` and given back by the next
`decode`, which then loads nothing; `decode` empties the slot as it does so. The context is a
module whose globals are the interpreter's global namespace.

The interpreter can be claimed once per program (`MicroPython.take`); a second claim is refused
with `AlreadyInit`.

Main definitions: `MicroPython`, `MicroPython.take`, `AlreadyInit`, and the `Runtime` instance.
-/

namespace DeviceBoot

/-- The interpreter was claimed already. -/
inductive AlreadyInit where
  | alreadyInit
  deriving DecidableEq, Repr

/-- The text `AlreadyInit` is reported with. -/
def AlreadyInit.message : AlreadyInit → String
  | .alreadyInit => "runtime already initialized"

/-- The binding's own state: a raise from making a context, waiting for the next decode. -/
structure MicroPython where
  pending : Option Obj := none
  deriving DecidableEq, Repr

namespace MicroPython

/-- Claim the interpreter: only the first claim of a program succeeds. -/
def take {m : Type → Type} [Monad m] [MonadStateOf Globals m] : m (Except AlreadyInit MicroPython) :=
  modifyGetThe Globals fun g =>
    if g.runtimeTaken then (.error .alreadyInit, g) else (.ok {}, { g with runtimeTaken := true })

/-- The text of an exception: its type name, else its handle. -/
def describe (typeName : Obj → Option String) (e : Obj) : String :=
  match if e.isNull then none else typeName e with
  | some name => name
  | none => s!"exception at {Hex.prefixed e.handle}"

end MicroPython

section Lift

variable {m : Type → Type} {σ : Type} [Monad m]

/-- A gate seen under a state layer. -/
instance [SerialGate m] : SerialGate (StateT σ m) where
  writeSerial channel data := StateT.lift (SerialGate.writeSerial channel data)
  cooperativeTick := StateT.lift SerialGate.cooperativeTick
  requestExit := StateT.lift SerialGate.requestExit

/-- A board seen under a state layer. -/
instance [Board m] : Board (StateT σ m) where
  zeroRegion r := StateT.lift (Board.zeroRegion r)
  flushSharedConsole := StateT.lift Board.flushSharedConsole

end Lift

variable {m : Type → Type} [Monad m] [MonadExceptOf Obj m] [Interpreter m]

namespace MicroPython

/-- Make the entry module's context: a module whose globals are the global namespace. -/
def makeContext : m Obj := do
  let name ← Interpreter.intern entryModuleName
  let module ← Interpreter.newModule name
  let globals ← Interpreter.call0 (Interpreter.globalsBuiltin (m := m))
  Interpreter.bindGlobals module globals
  pure module

/-- A fresh context; on a raise, the null handle, with the raise kept for `decode`. -/
def newContext : StateT MicroPython m Nat := do
  match ← StateT.lift (protect (makeContext (m := m))) with
  | .ok module => pure module.handle
  | .error e => do
    modify fun rt => { rt with pending := some e }
    pure 0

/-- Decode a payload in a context: a raise kept from making the context comes first, and then
nothing is loaded. -/
def decode (context : Nat) (payload : Bytes) : StateT MicroPython m (Except Obj Obj) := do
  match (← get).pending with
  | some e => do
    modify fun rt => { rt with pending := none }
    pure (.error e)
  | none =>
    StateT.lift <| protect do
      let compiled ← Interpreter.loadRawCode payload ⟨context, Obj.null⟩
      Interpreter.makeFunction compiled.rawCode context Obj.null

/-- Call a program with no arguments. -/
def call0 (program : Obj) : StateT MicroPython m (Except Obj Unit) :=
  StateT.lift <| protect do
    let _ ← Interpreter.call0 program
    pure ()

/-- Print a fault's traceback; a null fault has none. -/
def printTraceback (e : Obj) : StateT MicroPython m Unit :=
  if e.isNull then pure () else StateT.lift (Interpreter.printException e)

end MicroPython

/-- The interpreter as the boot layer's runtime. -/
instance : Runtime (StateT MicroPython m) where
  Program := Obj
  Fault := Obj
  describe := MicroPython.describe (Interpreter.typeName (m := m))
  initStack top := StateT.lift (Interpreter.setStackTop top)
  initHeap r := StateT.lift (Interpreter.gcInit r.start r.end)
  init := StateT.lift Interpreter.init
  newContext := MicroPython.newContext
  decode := MicroPython.decode
  call0 := MicroPython.call0
  printTraceback := MicroPython.printTraceback

end DeviceBoot
