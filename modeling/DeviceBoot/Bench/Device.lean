import DeviceBoot.Device.Binding
import DeviceBoot.Bench.Gates
import DeviceBoot.Memory.Zero
import DeviceBoot.Text.Utf8
import DeviceBoot.Text.Lines
/-!
# A bench device

The device program runs here on a bench machine (`DeviceM`): the firmware is a fake jump table
that takes writes by a script of limits, as `ScriptedGate` does, and the interpreter is a stand-in
with a fixed set of exception objects, whose programs are byte strings of one-letter operations.

`DeviceM` raises interpreter exceptions with `ExceptT Obj` and ends the program on a panic with the
error of `EStateM String`, keeping the machine as it was at that moment. The machine's trail holds
the gate events in order, with the stage markers the bench writes between them; the interpreter
keeps a log of the entry points it ran.

The interpreter stand-in:

* the exceptions are `RuntimeError`, `ValueError`, `MemoryError`, `TypeError` and one object with
  no type name; it may be told to raise while a context or a function is made (`RaisePoint`);
* a payload loads only if it starts with `M` and version 6, and the program is the rest;
* program operations: `p` prints `ok`, `w` prints `partial` with no newline, `L` a line longer
  than the console buffer; `n` and `z` print a null or empty text; `r`, `v`, `t`, `u` and `0`
  raise; `g` collects, `G` collects and asks for a collection from inside the cycle; `J` lets an
  exception escape every frame; `A`, `a` and `B` fail an assertion. Any other byte does nothing.

Main definitions: `DeviceBench`, `DeviceM`, `BenchInterpreter`.
-/

namespace DeviceBoot

/-- Where the interpreter stand-in raises while the program is prepared. -/
inductive RaisePoint where
  | none
  | newModule
  | globals
  | makeFunction
  deriving DecidableEq, Repr

/-- An entry of the bench's trail: a stage marker, or a gate event. -/
inductive TrailEntry where
  | stage (name : String)
  | gate (event : GateEvent)
  deriving DecidableEq, Repr

/-- The interpreter stand-in's state. -/
structure BenchInterpreter where
  raiseAt : RaisePoint := .none
  log : List String := []
  stackTop : Option Nat := none
  heap : Option (Nat × Nat) := none
  module : Obj := Obj.null
  moduleGlobals : Obj := Obj.null
  program : Bytes := []
  rootCalls : Nat := 0
  nestedArmed : Bool := false
  deriving DecidableEq, Repr

/-- What the bench notes while the device runs. -/
structure BenchNotes where
  consoleInstall : Option Bool := none
  consoleInstallAgain : Option Bool := none
  scannerInstall : Option Bool := none
  scannerInstallAgain : Option Bool := none
  stackTop : Option Nat := none
  takeAgain : Option AlreadyInit := none
  phase : Option BootPhase := none
  contextIsNull : Option Bool := none
  decodedIsNull : Option Bool := none
  fault : Option (Option Obj) := none
  deriving DecidableEq, Repr

/-- The bench machine. -/
structure DeviceBench where
  limits : List Nat := []
  defaultLimit : Option Nat := none
  trail : List TrailEntry := []
  exitRequested : Bool := false
  idleTicks : Nat := 0
  memory : Memory := []
  globals : Globals := {}
  interp : BenchInterpreter := {}
  notes : BenchNotes := {}
  deriving DecidableEq, Repr

/-- Programs on the bench machine. -/
abbrev DeviceM := ExceptT Obj (EStateM String DeviceBench)

namespace DeviceBench

/-- Write a stage marker on the trail. -/
def stage (name : String) : DeviceM Unit :=
  modifyThe DeviceBench fun b => { b with trail := b.trail ++ [.stage name] }

/-- Change the interpreter stand-in's state. -/
def interpret (f : BenchInterpreter → BenchInterpreter) : DeviceM Unit :=
  modifyThe DeviceBench fun b => { b with interp := f b.interp }

/-- Add a line to the interpreter's log. -/
def logLine (line : String) : DeviceM Unit := interpret fun i => { i with log := i.log ++ [line] }

/-- Note something the device did. -/
def note (f : BenchNotes → BenchNotes) : DeviceM Unit :=
  modifyThe DeviceBench fun b => { b with notes := f b.notes }

end DeviceBench

open DeviceBench

/-- The device program's globals live in the bench machine. -/
instance : MonadStateOf Globals DeviceM where
  get := do return (← getThe DeviceBench).globals
  set g := modifyThe DeviceBench fun b => { b with globals := g }
  modifyGet f := modifyGetThe DeviceBench fun b =>
    let (a, g) := f b.globals
    (a, { b with globals := g })

/-- The fake jump table: each write takes what the next limit allows and is logged with the bytes
offered; ticks after the exit request are idle ticks. -/
instance : JumpTable DeviceM where
  serialWrite channel data len := modifyGetThe DeviceBench fun b =>
    let offered := data.take len.toNat
    let (limit, rest) := match b.limits with
      | l :: rest => (some l, rest)
      | [] => (b.defaultLimit, [])
    let accepted := match limit with
      | some l => min offered.length l
      | none => offered.length
    (Int32.ofNat accepted,
      { b with limits := rest, trail := b.trail ++ [.gate (.write channel offered accepted)] })
  tasksRun := modifyThe DeviceBench fun b =>
    { b with trail := b.trail ++ [.gate .tick],
             idleTicks := if b.exitRequested then b.idleTicks + 1 else b.idleTicks }
  systemExitRequest := modifyThe DeviceBench fun b =>
    { b with trail := b.trail ++ [.gate .exit], exitRequested := true }

instance : SerialGate DeviceM := JumpTable.gate

instance : Board DeviceM where
  zeroRegion r := modifyThe DeviceBench fun b => { b with memory := b.memory.zero r }
  flushSharedConsole := Globals.tryFlush

/-- The stack pointer while the bench collects: the bench runs on its own stack, far above the
arena. Only whether a scanner's stack range is empty can be seen. -/
def hostStackPointer : Nat := Nat.pow 2 40

/-- The frame of the bench's start-up routine, above every frame a collection runs in. -/
def hostStartFrame : Nat := hostStackPointer + 4096

instance : Processor DeviceM where
  captureRegisters := pure ⟨List.replicate capturedRegisters 0, hostStackPointer⟩
  panic msg := throwThe String msg

/-- The collector stand-in counts the spans of a cycle; armed, it asks for a collection from
inside the cycle at the first span. -/
instance : Collector DeviceM where
  collectStart := do
    logLine "gc_collect_start"
    interpret fun i => { i with rootCalls := 0 }
  collectRoot _ collect := do
    let armed ← modifyGetThe DeviceBench fun b =>
      (b.interp.nestedArmed,
        { b with interp := { b.interp with rootCalls := b.interp.rootCalls + 1, nestedArmed := false } })
    if armed then
      logLine "nested gc_collect"
      collect
  collectEnd := do
    let calls := (← getThe DeviceBench).interp.rootCalls
    logLine s!"gc_collect_end root_calls={calls}"

namespace BenchInterpreter

/-- The log read back from the interpreter's text: each line is written with a newline after it,
and the text ends at its first NUL character, so a NUL written by an operation hides the rest. -/
def logLines (i : BenchInterpreter) : List String :=
  Lines.split (String.ofList ((String.join (i.log.map (· ++ "\n"))).toList.takeWhile (· ≠ '\x00')))

def runtimeError : Obj := ⟨0x101⟩
def valueError : Obj := ⟨0x102⟩
def memoryError : Obj := ⟨0x103⟩
def typeError : Obj := ⟨0x104⟩
/-- An exception object without a type name. -/
def nameless : Obj := ⟨0x7f⟩

/-- The builtin answering the global namespace. -/
def globalsBuiltin : Obj := ⟨0x200⟩
/-- The global namespace. -/
def namespaceObject : Obj := ⟨0x900⟩
/-- The module object the interpreter makes. -/
def moduleObject : Obj := ⟨0x300⟩
/-- The raw code a payload loads to. -/
def rawCode : Obj := ⟨0x400⟩
/-- The function made from the raw code. -/
def function : Obj := ⟨0x500⟩

/-- The identifier every name interns to. -/
def internedName : Nat := 77

/-- The type names of the exception objects. -/
def typeName (e : Obj) : Option String :=
  match e.handle with
  | 0x101 => some "RuntimeError"
  | 0x102 => some "ValueError"
  | 0x103 => some "MemoryError"
  | 0x104 => some "TypeError"
  | _ => none

/-- A flag as the log writes it. -/
def flag (b : Bool) : String := if b then "1" else "0"

/-- Raise `e` if the stand-in was told to raise at `p`. -/
def raiseIf (p : RaisePoint) (e : Obj) : DeviceM Unit := do
  if (← getThe DeviceBench).interp.raiseAt = p then throwThe Obj e

/-- Print a text on the interpreter's standard output. -/
def printText (text : String) : DeviceM Unit := Globals.stdout (some text.toUTF8.toList) text.utf8ByteSize

/-- An operation as the log names it: its byte as text. -/
def opName (op : UInt8) : String := Utf8.decodeLossy [op]

/-- A line longer than the console buffer. -/
def longLine : String := String.ofList (List.replicate 299 'x') ++ "\n"

/-- Run one program operation. -/
def runOp (op : UInt8) : DeviceM Unit :=
  match Char.ofNat op.toNat with
  | 'p' => printText "ok\n"
  | 'w' => printText "partial"
  | 'L' => printText longLine
  | 'n' => Globals.stdout none 5
  | 'z' => Globals.stdout (some [0x78]) 0
  | 'r' => throwThe Obj runtimeError
  | 'v' => throwThe Obj valueError
  | 't' => throwThe Obj typeError
  | 'u' => throwThe Obj nameless
  | '0' => throwThe Obj Obj.null
  | 'g' => Globals.gcCollect
  | 'G' => do
    interpret fun i => { i with nestedArmed := true }
    Globals.gcCollect
  | 'J' => Globals.nlrJumpFail ⟨0x10⟩
  | 'A' => Globals.assertFail (some "py/obj.c".toUTF8.toList) 42 (some "mp_obj_get_type".toUTF8.toList)
      (some "o != MP_OBJ_NULL".toUTF8.toList)
  | 'a' => Globals.assertFail none (-1) none none
  | 'B' => Globals.assertFail (some [0xff, 0xfe]) 0 (some [0x66]) (some [0xc3, 0x28])
  | _ => pure ()

/-- Run a program's operations in order, each logged before it acts. -/
def runProgram : Bytes → DeviceM Unit
  | [] => pure ()
  | op :: rest => do
    logLine s!"op {opName op}"
    runOp op
    runProgram rest

/-- The loader's log line for a payload loaded into a compiled module. -/
def loadLine (i : BenchInterpreter) (payload : Bytes) (cm : CompiledModule) : String :=
  s!"mp_raw_code_load_mem len={payload.length} context_is_module={flag (cm.context = i.module.handle)} " ++
    s!"globals_bound={flag (i.moduleGlobals = namespaceObject)} rc_null={flag cm.rawCode.isNull}"

end BenchInterpreter

open BenchInterpreter in
/-- The interpreter stand-in. -/
instance : Interpreter DeviceM where
  setStackTop top := do
    logLine "mp_stack_set_top"
    interpret fun i => { i with stackTop := some top }
  gcInit start stop := do
    logLine "gc_init"
    interpret fun i => { i with heap := some (start, stop) }
  init := logLine "mp_init"
  intern name := do
    logLine s!"qstr_from_str {name}"
    pure internedName
  newModule name := do
    logLine s!"mp_obj_new_module qstr={name}"
    raiseIf .newModule memoryError
    interpret fun i => { i with module := moduleObject }
    pure moduleObject
  globalsBuiltin := globalsBuiltin
  call0 f :=
    if f = globalsBuiltin then do
      logLine "mp_call_function_0 globals"
      raiseIf .globals typeError
      pure namespaceObject
    else do
      logLine "mp_call_function_0 program"
      runProgram (← getThe DeviceBench).interp.program
      pure Obj.null
  bindGlobals module globals :=
    interpret fun i => if module = i.module then { i with moduleGlobals := globals } else i
  loadRawCode payload cm := do
    logLine (loadLine (← getThe DeviceBench).interp payload cm)
    if payload.take 2 = [0x4d, 6] then
      interpret fun i => { i with program := payload.drop 2 }
      pure { cm with rawCode := rawCode }
    else throwThe Obj valueError
  makeFunction rc context defaults := do
    let i := (← getThe DeviceBench).interp
    logLine (s!"mp_make_function_from_proto_fun rc_ok={flag (rc = rawCode)} " ++
      s!"context_is_module={flag (context = i.module.handle)} def_args_null={flag defaults.isNull}")
    raiseIf .makeFunction memoryError
    pure function
  typeName := typeName
  printException e := do
    logLine "mp_obj_print_exception plat=1"
    printText "Traceback (most recent call last):\n"
    printText ((typeName e).getD "?" ++ "\n")

end DeviceBoot
