import DeviceBoot.Gate.Basic
/-!
# Bench gates

Gates that stand in for the firmware on the bench, as pure state machines (`GateModel`), each with
the log of what it was asked:

* `ScriptedGate` takes, on each write, the next limit of a script (then a default limit, else
  everything) and logs every write with the bytes offered and the count taken;
* `RecordingGate` takes at most a fixed limit on each write and logs only writes that took
  something, with just the bytes taken;
* `BenchTable` is a firmware jump table that logs each entry called and answers serial writes with a
  value set beforehand.

Any `GateModel γ` is a `SerialGate` of `StateM γ`.
-/

namespace DeviceBoot

/-- Something a gate was asked to do. -/
inductive GateEvent where
  /-- A serial write: channel, bytes, and how many were taken. -/
  | write (channel : UInt32) (data : Bytes) (accepted : Nat)
  /-- A cooperative tick. -/
  | tick
  /-- The exit request. -/
  | exit
  deriving DecidableEq, Repr

/-- A gate as a pure state machine. -/
class GateModel (γ : Type) where
  write : γ → UInt32 → Bytes → Nat × γ
  tick : γ → γ
  exit : γ → γ

instance {γ : Type} [GateModel γ] : SerialGate (StateM γ) where
  writeSerial channel data := modifyGet fun g => GateModel.write g channel data
  cooperativeTick := modify GateModel.tick
  requestExit := modify GateModel.exit

/-- A gate following a script of limits. -/
structure ScriptedGate where
  limits : List Nat := []
  defaultLimit : Option Nat := none
  log : List GateEvent := []
  deriving DecidableEq, Repr

namespace ScriptedGate

/-- The limit for the next write, and the script after it. -/
def nextLimit (g : ScriptedGate) : Option Nat × List Nat :=
  match g.limits with
  | l :: rest => (some l, rest)
  | [] => (g.defaultLimit, [])

instance : GateModel ScriptedGate where
  write g channel data :=
    let (limit, rest) := g.nextLimit
    let accepted := match limit with
      | some l => min data.length l
      | none => data.length
    (accepted, { g with limits := rest, log := g.log ++ [.write channel data accepted] })
  tick g := { g with log := g.log ++ [.tick] }
  exit g := { g with log := g.log ++ [.exit] }

end ScriptedGate

/-- A gate that takes at most a fixed number of bytes per write and logs what it took. -/
structure RecordingGate where
  writeLimit : Option Nat := none
  log : List GateEvent := []
  deriving DecidableEq, Repr

namespace RecordingGate

instance : GateModel RecordingGate where
  write g channel data :=
    let accepted := match g.writeLimit with
      | some l => min data.length l
      | none => data.length
    if accepted > 0 then
      (accepted, { g with log := g.log ++ [.write channel (data.take accepted) accepted] })
    else (accepted, g)
  tick g := { g with log := g.log ++ [.tick] }
  exit g := { g with log := g.log ++ [.exit] }

/-- The bytes written to a channel, in order. -/
def serialOutput (g : RecordingGate) (channel : UInt32) : Bytes :=
  g.log.flatMap fun
    | .write c data _ => if c = channel then data else []
    | _ => []

/-- Ticks logged. -/
def ticks (g : RecordingGate) : Nat := g.log.countP (· == .tick)

end RecordingGate

/-- A call the fake jump table received. -/
inductive FirmwareCall where
  | serialWrite (channel : UInt32) (data : Bytes) (len : UInt32)
  | tasksRun
  | systemExitRequest
  deriving DecidableEq, Repr

/-- A fake jump table: its call log and the answer its next serial write gives. -/
structure BenchTable where
  calls : List FirmwareCall := []
  answer : Int32 := 2147483647
  deriving Repr

instance : JumpTable (StateM BenchTable) where
  serialWrite channel data len := modifyGet fun t =>
    (t.answer, { t with calls := t.calls ++ [.serialWrite channel data len] })
  tasksRun := modify fun t => { t with calls := t.calls ++ [.tasksRun] }
  systemExitRequest := modify fun t => { t with calls := t.calls ++ [.systemExitRequest] }

end DeviceBoot
