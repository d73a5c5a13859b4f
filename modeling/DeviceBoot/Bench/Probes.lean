import DeviceBoot.Bench.Gates
import DeviceBoot.Console.Buffer
import DeviceBoot.Memory.Zero
/-!
# Bench probes

Small runs of single pieces against the scripted gate or the fake jump table: a send, a console
driven by a list of operations, calls through the jump table, and zeroing a region of a filled
buffer.

Main definitions: `probeSend`, `ConsoleOp`, `runConsole`, `TableOp`, `runTable`, `probeZero`.
-/

namespace DeviceBoot

/-- Send bytes through a scripted gate: how many went out, and the gate's log. -/
def probeSend (gate : ScriptedGate) (channel : UInt32) (data : Bytes) : Nat × List GateEvent :=
  let (n, g) := (send channel data : StateM ScriptedGate Nat).run gate
  (n, g.log)

/-- An operation on a console under test. -/
inductive ConsoleOp where
  | write (data : Bytes)
  | writeStr (text : String)
  /-- Write a text followed by a number in decimal. -/
  | writeFmt (text : String) (n : Int)
  | flush
  /-- Close the console; the next operation opens a fresh one. -/
  | close
  /-- Ask the console its channel. -/
  | channel
  deriving DecidableEq, Repr

/-- What one console operation showed: the channel, when asked, and the gate events it caused. -/
structure ConsoleStep where
  channel : Option UInt32
  events : List GateEvent
  deriving DecidableEq, Repr

/-- Apply one operation to the console (opening one if the last was closed). -/
def ConsoleOp.apply (channel : UInt32) (op : ConsoleOp) (c : Option Console) :
    StateM ScriptedGate (Option UInt32 × Option Console) := do
  let c := c.getD ⟨channel, []⟩
  match op with
  | .write data => pure (none, some (← c.writeBytes data))
  | .writeStr text => pure (none, some (← c.writeStr text))
  | .writeFmt text n => pure (none, some (← c.writeStr (text ++ toString n)))
  | .flush => pure (none, some (← c.flush))
  | .close => do c.close; pure (none, none)
  | .channel => pure (some c.channel, some c)

/-- Drive one console through the operations: each step, and the events of closing the console
still open at the end. -/
def runConsole (gate : ScriptedGate) (channel : UInt32) (ops : List ConsoleOp) :
    List ConsoleStep × List GateEvent :=
  let (steps, c, g) := ops.foldl (fun (acc : List ConsoleStep × Option Console × ScriptedGate) op =>
    let (steps, c, g) := acc
    let ((asked, c'), g') := (op.apply channel c).run g
    (steps ++ [⟨asked, g'.log.drop g.log.length⟩], c', g')) ([], some ⟨channel, []⟩, gate)
  match c with
  | none => (steps, [])
  | some c =>
    let g' := ((c.close : StateM ScriptedGate Unit).run g).2
    (steps, g'.log.drop g.log.length)

/-- A call through the jump table under test. -/
inductive TableOp where
  /-- A serial write, the fake answering `answer`. -/
  | write (channel : UInt32) (data : Bytes) (answer : Int32)
  | tick
  | exit
  deriving Repr

/-- What one call showed: the count a write took, and the calls the fake table received. -/
structure TableStep where
  accepted : Option Nat
  calls : List FirmwareCall
  deriving DecidableEq, Repr

/-- Make the calls through the jump table over a fresh fake table. -/
def runTable (ops : List TableOp) : List TableStep :=
  let gate : SerialGate (StateM BenchTable) := JumpTable.gate
  (ops.foldl (fun (acc : List TableStep × BenchTable) op =>
    let (steps, t) := acc
    let (accepted, t') : Option Nat × BenchTable := match op with
      | .write channel data answer =>
        let (n, t') := (gate.writeSerial channel data).run { t with answer := answer }
        (some n, t')
      | .tick => (none, (gate.cooperativeTick.run t).2)
      | .exit => (none, (gate.requestExit.run t).2)
    (steps ++ [⟨accepted, t'.calls.drop t.calls.length⟩], t')) ([], {})).1

/-- Zero the first `len` bytes of a buffer of `len / 8 + 2` words filled with `fill`: the first
`len + 8` bytes afterwards. -/
def probeZero (len : Nat) (fill : UInt8) : Bytes :=
  let buffer : Memory := List.replicate (wordBytes * (len / wordBytes + 2)) fill
  (buffer.zero ⟨0, len, .zeroInit⟩).take (len + wordBytes)

end DeviceBoot
