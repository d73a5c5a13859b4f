import DeviceBoot.Console.Shared
import DeviceBoot.Device.Interpreter
import DeviceBoot.Text.Hex
/-!
# The device program's globals and the hooks the interpreter calls

A device program has a few process-wide slots (`Globals`): the shared console, the root scanner
the collector uses, and whether the interpreter has been claimed. Each can be filled once. The
device has one gate, the firmware's jump table, which the monad provides and the shared console is
installed on by the name `()`.

The interpreter calls back into the program through hooks:

* `stdout` stages its standard output on the shared console (nothing for a null or empty text);
* `gcCollect` runs a collection cycle with the installed scanner, reporting a refused cycle as
  `[GC] <reason>` on the shared console; without a scanner it does nothing;
* `nlrJumpFail` and `assertFail` end the program with a panic message.

A cycle runs on the installed scanner, which is put back with its flag as the cycle leaves it. A
collection asked for from inside the cycle meets the scanner as the cycle holds it, busy, and is
refused before any collector call, as `RootScanner.collectFrom_busy` states; `collectorRoots`
makes that call for the collector.

Main definitions: `Globals`, `Processor`, `Globals.gcCollect`, `Globals.assertFail`.
-/

namespace DeviceBoot

/-- The device program's process-wide slots. -/
structure Globals where
  console : SharedConsole Unit := {}
  scanner : Option RootScanner := none
  runtimeTaken : Bool := false
  deriving DecidableEq, Repr

/-- The processor: capturing the registers for a root scan, and the panic that ends the program. -/
class Processor (m : Type → Type) where
  /-- The callee-saved registers and the stack pointer, now. -/
  captureRegisters : m RegisterSnapshot
  /-- End the program with a message. -/
  panic {α : Type} : String → m α

namespace Globals

variable {m : Type → Type} [Monad m] [SerialGate m] [MonadStateOf Globals m]

/-- Install the shared console on the device's gate and `channel`; answer whether this call did
it. -/
def installConsole (channel : UInt32) : m Bool :=
  modifyGetThe Globals fun g =>
    let (done, console) := g.console.install () channel
    (done, { g with console := console })

/-- Stage bytes on the shared console. -/
def write (bytes : Bytes) : m Unit := do
  let g ← getThe Globals
  let console ← g.console.write bytes
  modifyThe Globals fun g => { g with console := console }

/-- Stage a text on the shared console. -/
def print (text : String) : m Unit := write text.toUTF8.toList

/-- Stage a text and a newline on the shared console. -/
def println (text : String) : m Unit := print (text ++ "\n")

/-- Send what the shared console has staged. -/
def tryFlush : m Unit := do
  let g ← getThe Globals
  let console ← g.console.tryFlush
  modifyThe Globals fun g => { g with console := console }

/-- Install the collector's root scanner; only the first installation takes effect. -/
def installRootScanner (s : RootScanner) : m Bool :=
  modifyGetThe Globals fun g =>
    match g.scanner with
    | some _ => (false, g)
    | none => (true, { g with scanner := some s })

/-- The interpreter's standard output: the first `len` bytes of a text, nothing for a null text
or a zero length. -/
def stdout (text : Option Bytes) (len : Nat) : m Unit :=
  match text with
  | some t => if len = 0 then pure () else write (t.take len)
  | none => pure ()

/-- Report a refused collection cycle. -/
def reportScan : Except ScanError Unit → m Unit
  | .ok () => pure ()
  | .error e => println s!"[GC] {e.message}"

/-- A collection asked for while the scanner is busy with a cycle: the scanner refuses it before
any collector call. -/
def collectWhileBusy (busy : RootScanner) : m Unit :=
  reportScan (match busy.begin with
    | .error e => .error e
    | .ok _ => .ok ())

/-- The collector as the root scanner sees it: every batch and every stack range is one span, and
a collection asked for while it handles one meets the scanner as the cycle holds it. -/
instance collectorRoots [Collector m] : RootCollector (StateT RootScanner m) where
  collectStart := StateT.lift Collector.collectStart
  collectRoots words := fun s => do
    Collector.collectRoot (.words words) (collectWhileBusy s)
    pure ((), s)
  collectRootRange start len := fun s => do
    Collector.collectRoot (.range start len) (collectWhileBusy s)
    pure ((), s)
  collectEnd := StateT.lift Collector.collectEnd

/-- A collection cycle with the installed scanner, from the registers captured now. -/
def gcCollect [Collector m] [Processor m] : m Unit := do
  match (← getThe Globals).scanner with
  | none => pure ()
  | some s =>
    let snapshot ← Processor.captureRegisters
    let (result, s) ← (RootScanner.collectFrom snapshot).run s
    modifyThe Globals fun g => { g with scanner := some s }
    reportScan result

/-- A C string's text: `?` for a null pointer or bytes that are not UTF-8. -/
def cText (s : Option Bytes) : String :=
  match s with
  | some b => (String.fromUTF8? ⟨b.toArray⟩).getD "?"
  | none => "?"

/-- An exception escaped every frame. -/
def nlrJumpFail [Processor m] {α : Type} (val : Obj) : m α :=
  Processor.panic s!"uncaught exception {Hex.prefixed val.handle} with no handler"

/-- A failed assertion in the interpreter. -/
def assertFail [Processor m] {α : Type} (file : Option Bytes) (line : Int)
    (func expr : Option Bytes) : m α :=
  Processor.panic s!"runtime assertion `{cText expr}` failed in {cText func} at {cText file}:{line}"

end Globals

end DeviceBoot
