import DeviceBoot.Console.Send
/-!
# The console

Console text is staged in a fixed buffer of `consoleBufferSize` bytes, so diagnostics still work
when the heap is what broke. A byte that finds the buffer full first sends what is staged; a
newline sends the line it ends; `flush` sends whatever is staged, and closing the console flushes
it. Sending goes through `send`, so partial writes and stalls behave as there.

Main definitions: `Console.writeBytes`, `Console.flush`, `Console.close`.
-/

namespace DeviceBoot

/-- A console on a serial channel with the bytes it has staged. -/
structure Console where
  channel : UInt32
  buffer : Bytes := []
  deriving DecidableEq, Repr

namespace Console

variable {m : Type → Type} [Monad m] [SerialGate m]

/-- The newline byte, which ends a line and sends it. -/
def newline : UInt8 := 10

/-- Send everything staged and empty the buffer. -/
def flush (c : Console) : m Console := do
  let _ ← send c.channel c.buffer
  pure { c with buffer := [] }

/-- Stage one byte: make room first if the buffer is full, send the line if it is a newline. -/
def writeByte (c : Console) (b : UInt8) : m Console := do
  let c ← if c.buffer.length < consoleBufferSize then pure c else c.flush
  let c := { c with buffer := c.buffer ++ [b] }
  if b = newline then c.flush else pure c

/-- Stage bytes one by one. -/
def writeBytes (c : Console) (bytes : Bytes) : m Console :=
  bytes.foldlM writeByte c

/-- Stage the UTF-8 bytes of a text. -/
def writeStr (c : Console) (text : String) : m Console :=
  c.writeBytes text.toUTF8.toList

/-- Close the console, sending what it still holds. -/
def close (c : Console) : m Unit := do
  let _ ← c.flush
  pure ()

/-- Write one text on a fresh console and close it. -/
def emit (channel : UInt32) (text : String) : m Unit := do
  let c ← (Console.mk channel []).writeStr text
  c.close

end Console

end DeviceBoot
