import DeviceBoot.Memory.Region
import DeviceBoot.Word.LittleEndian
/-!
# Zeroing memory

Memory is a byte string indexed by address. `Memory.zero` clears exactly the bytes of
`[start, end)`. The device gets there with two loops (`Memory.zeroRegion`): a word loop that stores
zero words from the region's start up to the last word boundary its length reaches, and a byte
loop that stores zero bytes from where the word loop stopped up to the region's end. A word store
writes the word's eight bytes and needs a word-aligned address.

Main statements: `getElem?_zero` (a byte is cleared exactly when its address lies in the region,
every other byte is kept) and `length_zero`.
-/

namespace DeviceBoot

/-- Memory as the bytes at addresses `0, 1, 2, …`. -/
abbrev Memory := Bytes

namespace Memory

/-- Clear every byte whose address lies in the region. -/
def zero (mem : Memory) (r : MemoryRegion) : Memory :=
  mem.mapIdx fun addr b => if r.contains addr then 0 else b

@[simp] theorem length_zero (mem : Memory) (r : MemoryRegion) : (mem.zero r).length = mem.length := by
  simp [zero]

/-- **Exactly the region is cleared.** -/
theorem getElem?_zero (mem : Memory) (r : MemoryRegion) (addr : Nat) :
    (mem.zero r)[addr]? = mem[addr]?.map (fun b => if r.contains addr then 0 else b) := by
  simp [zero, List.getElem?_mapIdx]

end Memory

/-- A store that clearing a region makes: a zero word at an address, or a zero byte. -/
inductive ZeroStore where
  | word (addr : Nat)
  | byte (addr : Nat)
  deriving DecidableEq, Repr

namespace Memory

/-- Write bytes from `addr` on, one address after another; a byte past the end of memory is not
kept. -/
def writeBytes (mem : Memory) (addr : Nat) : Bytes → Memory
  | [] => mem
  | b :: rest => writeBytes (mem.set addr b) (addr + 1) rest

/-- Store a word, least significant byte first, at a word-aligned address; a word store at any
other address fails. -/
def storeWord (mem : Memory) (addr : Nat) (w : Word) : Option Memory :=
  if addr % wordBytes = 0 then some (mem.writeBytes addr (LittleEndian.split w.toNat wordBytes))
  else none

/-- Make one store of clearing a region. -/
def store (mem : Memory) : ZeroStore → Option Memory
  | .word addr => mem.storeWord addr 0
  | .byte addr => some (mem.set addr 0)

end Memory

namespace MemoryRegion

/-- The word loop of clearing: a word at `word`, then on a word at a time while below `wordEnd`.
The addresses it stores to, and the address where it stops. -/
def wordLoop (word wordEnd : Nat) : List Nat × Nat :=
  if word < wordEnd then
    let rest := wordLoop (word + wordBytes) wordEnd
    (word :: rest.1, rest.2)
  else ([], word)
termination_by wordEnd - word
decreasing_by simp only [wordBytes]; omega

/-- The byte loop of clearing: a byte at `byte`, then on a byte at a time while below `stop`. -/
def byteLoop (byte stop : Nat) : List Nat :=
  if byte < stop then byte :: byteLoop (byte + 1) stop else []
termination_by stop - byte

/-- The stores that clear a region, in order: words from its start up to the last word boundary
its length reaches, then bytes from where the word loop stopped up to its end. -/
def zeroStores (r : MemoryRegion) : List ZeroStore :=
  let words := wordLoop r.start (r.start + r.len / wordBytes * wordBytes)
  words.1.map .word ++ (byteLoop words.2 r.end).map .byte

end MemoryRegion

/-- Clear a region as the device does, store by store. It fails at a word store that is not word
aligned, so the region must start on a word boundary or be shorter than a word. -/
def Memory.zeroRegion (mem : Memory) (r : MemoryRegion) : Option Memory :=
  r.zeroStores.foldlM Memory.store mem

end DeviceBoot
