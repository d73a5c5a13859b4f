import DeviceBoot.Gate.Basic
/-!
# Sending bytes through the gate

`send` offers the bytes that remain to the serial channel until none remain. Whatever a write
takes is removed from the front (never more than remains). Between two writes the firmware gets a
cooperative tick. A channel that takes nothing `consoleStallTicks + 1` times in a row loses the
rest; any write that takes something resets that count.

Main definition: `send`, which answers how many bytes went out.
-/

namespace DeviceBoot

variable {m : Type → Type} [Monad m] [SerialGate m]

/-- Keep offering `rest` (what remains of `bytes`) after `stalled` fruitless writes in a row;
answer how many of `bytes` went out. -/
def sendRest (channel : UInt32) (bytes rest : Bytes) (stalled : Nat) : m Nat := do
  if hrest : rest = [] then
    return bytes.length - rest.length
  else
    let accepted ← SerialGate.writeSerial channel rest
    let left := rest.drop accepted
    if left = [] then
      return bytes.length - left.length
    else if hzero : accepted = 0 then
      if hstall : stalled + 1 > consoleStallTicks then
        return bytes.length - left.length
      else
        SerialGate.cooperativeTick
        sendRest channel bytes left (stalled + 1)
    else
      SerialGate.cooperativeTick
      sendRest channel bytes left 0
termination_by (rest.length, consoleStallTicks + 1 - stalled)
decreasing_by
  · subst hzero
    simp only [List.drop_zero]
    apply Prod.Lex.right
    omega
  · apply Prod.Lex.left
    have : rest.length ≠ 0 := by simpa using hrest
    simp only [List.length_drop]
    omega

/-- Send `bytes` on `channel`, yielding to firmware while the channel is backed up; answer how
many bytes went out. -/
def send (channel : UInt32) (bytes : Bytes) : m Nat :=
  sendRest channel bytes bytes 0

end DeviceBoot
