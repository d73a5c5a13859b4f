import DeviceBoot.Boot.Runtime
/-!
# The script runtime

A stand-in interpreter for the bench. Its bytecode is the header `M`, version 6, then one byte per
operation: `p` prints `ok`, `r` raises `RuntimeError`, `s` stores a module-level name, `g` looks a
global up and raises `NameError` unless the program runs in the global namespace and a name was
stored; any other byte does nothing. Each operation is recorded as executed before it acts.

Main definitions: `ScriptRuntime.decode`, `ScriptRuntime.call0`, `script`.
-/

namespace DeviceBoot

/-- First byte of a script. -/
def scriptMagic : UInt8 := 0x4d

/-- The script version the runtime reads. -/
def scriptVersion : UInt8 := 6

/-- Handle of the global namespace contexts are created in. -/
def globalNamespace : Nat := 0x9000

/-- A script with the given operations. -/
def script (ops : Bytes) : Bytes := scriptMagic :: scriptVersion :: ops

/-- A decoded script: its operations and the namespace it resolves globals in. -/
structure ScriptProgram where
  ops : Bytes
  globals : Nat
  deriving DecidableEq, Repr

/-- The script runtime's state. -/
structure ScriptRuntime where
  stackTop : Option Nat := none
  heap : Option MemoryRegion := none
  initialized : Nat := 0
  contexts : Nat := 0
  executed : Bytes := []
  output : String := ""
  tracebacks : List String := []
  storedNames : Nat := 0
  /-- The handle new contexts get. -/
  contextHandle : Nat := globalNamespace
  deriving DecidableEq, Repr

namespace ScriptRuntime

/-- Decode a payload: `M`, version 6, operations. -/
def decode (handle : Nat) (payload : Bytes) : Except String ScriptProgram :=
  match payload with
  | m :: v :: ops =>
    if m = scriptMagic then
      if v = scriptVersion then .ok ⟨ops, handle⟩ else .error "incompatible bytecode version"
    else .error "invalid bytecode header"
  | _ => .error "invalid bytecode header"

/-- Run operations in order, recording each before it acts. -/
def runOps (globals : Nat) : Bytes → ScriptRuntime → Except String Unit × ScriptRuntime
  | [], r => (.ok (), r)
  | op :: rest, r =>
    let r := { r with executed := r.executed ++ [op] }
    if op = 0x70 then runOps globals rest { r with output := r.output ++ "ok\n" }
    else if op = 0x72 then (.error "RuntimeError", r)
    else if op = 0x73 then runOps globals rest { r with storedNames := r.storedNames + 1 }
    else if op = 0x67 then
      if globals ≠ globalNamespace ∨ r.storedNames = 0 then (.error "NameError", r)
      else runOps globals rest r
    else runOps globals rest r

/-- Run a program. -/
def call0 (r : ScriptRuntime) (p : ScriptProgram) : Except String Unit × ScriptRuntime :=
  runOps p.globals p.ops r

/-- A fresh context. -/
def newContext (r : ScriptRuntime) : Nat × ScriptRuntime :=
  (r.contextHandle, { r with contexts := r.contexts + 1 })

end ScriptRuntime

end DeviceBoot
