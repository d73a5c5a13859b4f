import DeviceBoot.Config
/-!
# The firmware gate

The boot layer reaches the firmware through three services: write bytes to a serial channel (the
firmware says how many it took), a cooperative tick that lets firmware tasks run, and a request to
end the program. `SerialGate m` provides them in a monad `m`, so that a run is a value whose
effects can be read off.

On the device the services are entries of a jump table at fixed offsets. A serial write through the
table offers at most `2^32 - 1` bytes and reads the firmware's signed answer as a count, clamped
to the bytes offered.

Main definitions: `SerialGate`, `capabilities`, `acceptedBytes`, `JumpTable`.
-/

namespace DeviceBoot

/-- The firmware services the boot layer uses. -/
class SerialGate (m : Type → Type) where
  /-- Offer bytes to a serial channel; the answer is how many were taken. -/
  writeSerial : UInt32 → Bytes → m Nat
  /-- Let firmware tasks run once. -/
  cooperativeTick : m Unit
  /-- Ask the firmware to end the program. -/
  requestExit : m Unit

/-- A jump table entry: its name, offset and call signature. -/
structure Capability where
  name : String
  offset : Nat
  signature : String
  deriving DecidableEq, Repr

/-- The jump table entries the boot layer calls, in declaration order. -/
def capabilities : List Capability :=
  [⟨"serial_write", serialWriteOffset, "fn(u32, *const u8, u32) -> i32"⟩,
   ⟨"tasks_run", tasksRunOffset, "fn()"⟩,
   ⟨"system_exit_request", exitRequestOffset, "fn()"⟩]

/-- Bytes a serial write took, from the firmware's signed answer: a negative answer took none,
and no answer takes more than was offered. -/
def acceptedBytes (raw : Int32) (requested : Nat) : Nat :=
  if raw < 0 then 0 else min raw.toInt.toNat requested

theorem acceptedBytes_le (raw : Int32) (requested : Nat) : acceptedBytes raw requested ≤ requested := by
  unfold acceptedBytes
  split <;> omega

/-- The firmware behind the jump table: the three entries as they are called. -/
class JumpTable (m : Type → Type) where
  /-- `serial_write(channel, data, len)`, answering a signed count. -/
  serialWrite : UInt32 → Bytes → UInt32 → m Int32
  /-- `tasks_run()`. -/
  tasksRun : m Unit
  /-- `system_exit_request()`. -/
  systemExitRequest : m Unit

namespace JumpTable

/-- Largest count a serial write through the table can offer. -/
def maxOffer : Nat := 4294967295

/-- A serial write through the table: offer at most `maxOffer` bytes, clamp the answer. -/
def writeSerial [Monad m] [JumpTable m] (channel : UInt32) (data : Bytes) : m Nat := do
  let len := min data.length maxOffer
  let raw ← serialWrite channel data (UInt32.ofNat len)
  pure (acceptedBytes raw len)

/-- The gate a jump table provides. -/
abbrev gate [Monad m] [JumpTable m] : SerialGate m where
  writeSerial := writeSerial
  cooperativeTick := tasksRun
  requestExit := systemExitRequest

end JumpTable

end DeviceBoot
