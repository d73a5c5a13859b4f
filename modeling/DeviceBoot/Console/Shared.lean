import DeviceBoot.Console.Buffer
/-!
# The shared console

One console can be installed for the whole program, on the gate and channel of the first
installation; later installations change nothing. Text printed before then is dropped. The shared
console stages and sends like any console, through the gate it was installed on.

Gates are named by values of a type `G` (`GateRefs`), so that the console can keep the one it was
installed on. A program with one gate names it `()`.

Main definitions: `SharedConsole.install`, `SharedConsole.write`, `SharedConsole.tryFlush`.
-/

namespace DeviceBoot

/-- Gates named by values of `G`: each name is a gate of the monad `m`. -/
class GateRefs (G : Type) (m : Type → Type) where
  gate : G → SerialGate m

/-- The monad's own gate, named `()`. -/
instance {m : Type → Type} [SerialGate m] : GateRefs Unit m := ⟨fun _ => inferInstance⟩

/-- The program-wide console slot: the console, and the gate it was installed on. -/
structure SharedConsole (G : Type) where
  console : Option (G × Console) := none
  deriving DecidableEq, Repr

namespace SharedConsole

variable {G : Type} {m : Type → Type} [Monad m] [GateRefs G m]

/-- Install a console on `gate` and `channel` unless one is installed; answer whether this call
did it. -/
def install (s : SharedConsole G) (gate : G) (channel : UInt32) : Bool × SharedConsole G :=
  match s.console with
  | some _ => (false, s)
  | none => (true, ⟨some (gate, ⟨channel, []⟩)⟩)

/-- Stage bytes on the installed console, through its gate; without one they are dropped. -/
def write (s : SharedConsole G) (bytes : Bytes) : m (SharedConsole G) :=
  match s.console with
  | none => pure s
  | some (g, c) => do
    let c ← @Console.writeBytes m _ (GateRefs.gate g) c bytes
    pure ⟨some (g, c)⟩

/-- Stage a text on the installed console. -/
def print (s : SharedConsole G) (text : String) : m (SharedConsole G) :=
  s.write text.toUTF8.toList

/-- Send what the installed console has staged, through its gate.

The slot is taken only if nobody holds it, and a flush that finds it held does nothing. Calls
here come one after another, so the slot is never held when one begins, and that branch is left
out. -/
def tryFlush (s : SharedConsole G) : m (SharedConsole G) :=
  match s.console with
  | none => pure s
  | some (g, c) => do
    let c ← @Console.flush m _ (GateRefs.gate g) c
    pure ⟨some (g, c)⟩

end SharedConsole

end DeviceBoot
