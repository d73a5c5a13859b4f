import DeviceBoot.Bundle.Table
/-!
# Packing bundles

The build tool lays named modules out as a bundle the device reads back with `Bundle.parse`:
the header words, one length record per module, then every name, then every bytecode. An entry
record naming the entry module is appended after the modules, so the device finds what to run
without a convention on module order.

The entry must be one of the modules; every offset and length must fit a 32-bit word.

Main definitions: `Bundle.pack`, `Bundle.records`.
-/

namespace DeviceBoot

namespace Bundle

/-- The message for a number that does not fit a 32-bit word. -/
def tooLarge : String := "out of range integral type conversion attempted"

/-- A number as a 32-bit little-endian word, or the error for one that does not fit. -/
def packWord (n : Nat) : Except String Bytes :=
  if n < Nat.pow 2 32 then .ok (LittleEndian.split n 4) else .error tooLarge

/-- The records a bundle holds: the modules in order, then the entry record. -/
def records (modules : List (String × Bytes)) (entry : String) : List (Bytes × Bytes) :=
  modules.map (fun (name, code) => (name.toUTF8.toList, code)) ++
    [(entryRecordName, entry.toUTF8.toList)]

/-- Lay out named modules as a bundle whose entry is `entry`. -/
def pack (modules : List (String × Bytes)) (entry : String) : Except String Bytes := do
  unless modules.any (fun m => m.1 == entry) do
    throw s!"entry module '{entry}' is not in the bundle"
  let recs := records modules entry
  let namePool := headerLen + recs.length * recordLen
  let bytecodePool := recs.foldl (fun pool r => pool + r.1.length) namePool
  let head := LittleEndian.word32 bundleMagic ++ (← packWord namePool) ++ (← packWord bytecodePool)
    ++ (← packWord recs.length)
  let lengths ← recs.mapM fun r => return (← packWord r.1.length) ++ (← packWord r.2.length)
  return head ++ lengths.flatten ++ (recs.map Prod.fst).flatten ++ (recs.map Prod.snd).flatten

end Bundle

end DeviceBoot
