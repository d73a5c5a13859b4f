import DeviceBoot.Config
import DeviceBoot.Text.Hex
/-!
# Bytecode bundles

A bundle links several named bytecode modules into one blob. It starts with four 32-bit
little-endian words: the bundle magic, the offset of the name pool, the offset of the bytecode
pool and the number of modules. A length record of two words (name length, bytecode length)
follows for each module. Names are packed one after another from the name pool, bytecode from the
bytecode pool, in record order. Pools may lie anywhere in the bundle, also over the header, and
trailing bytes are ignored.

One module, the entry record, is named `__mpboot_entry__`; its bytecode is the name of the module
the device runs.

Main definitions: `Bundle.parse`, `Bundle.modules`, `Bundle.find`, `Bundle.entryModule` and
`selectEntry`.
-/

namespace DeviceBoot

/-- Why a byte string is not a usable bundle. -/
inductive TableError where
  /-- Too short for the word being read: the bundle's length. -/
  | truncated (len : Nat)
  /-- The first word is not the bundle magic. -/
  | badMagic (expected found : UInt32)
  /-- More length records are declared than the bundle has room for. -/
  | tooManyModules (count : UInt32) (room : Nat)
  /-- A module's name or bytecode runs past the end of the bundle. -/
  | outOfBounds (index : UInt32) (offset : Nat) (len : UInt32)
  /-- No module is the entry record. -/
  | noEntryRecord
  /-- The entry record names a module the bundle does not hold. -/
  | missingEntry
  deriving DecidableEq, Repr

/-- The text a bundle error is reported with. -/
def TableError.message : TableError → String
  | .truncated n => s!"bundle too short: {n} bytes"
  | .badMagic expected found =>
    s!"invalid bundle magic: expected {Hex.padded 10 expected.toNat}, found {Hex.padded 10 found.toNat}"
  | .tooManyModules count room => s!"bundle declares {count} modules but only has room for {room}"
  | .outOfBounds index offset len =>
    s!"module {index} spans {Hex.prefixed offset}+{Hex.prefixed len.toNat}, past the end of the bundle"
  | .noEntryRecord => "bundle does not name an entry module"
  | .missingEntry => "bundle names an entry module it does not contain"

/-- One module of a bundle. -/
structure BundleModule where
  name : Bytes
  bytecode : Bytes
  deriving DecidableEq, Repr

/-- A bundle whose header has been read: the raw bytes, the two pool offsets and the count. -/
structure Bundle where
  bytes : Bytes
  namePool : Nat
  bytecodePool : Nat
  count : UInt32
  deriving DecidableEq, Repr

namespace Bundle

/-- Bytes before the first length record. -/
def headerLen : Nat := 16

/-- Bytes in one length record. -/
def recordLen : Nat := 8

/-- The 32-bit word at `offset`, or `truncated` with the bundle's length. -/
def word (bytes : Bytes) (offset : Nat) : Except TableError UInt32 :=
  match LittleEndian.read32? bytes offset with
  | some w => .ok w
  | none => .error (.truncated bytes.length)

/-- The name and bytecode lengths of record `index`. -/
def lengths (b : Bundle) (index : Nat) : Option (UInt32 × UInt32) := do
  let pos := headerLen + index * recordLen
  let nameLen ← LittleEndian.read32? b.bytes pos
  let codeLen ← LittleEndian.read32? b.bytes (pos + 4)
  pure (nameLen, codeLen)

/-- The bytes `[offset, offset + len)` of the bundle. -/
def slice (b : Bundle) (offset len : Nat) : Bytes := (b.bytes.drop offset).take len

/-- The modules from record `index` on, given how far the two pools are used: the modules read
before the first record whose span leaves the bundle, and that record's error if there is one. -/
def walk (b : Bundle) (index nameAt codeAt : Nat) : List BundleModule × Option TableError :=
  if index < b.count.toNat then
    match b.lengths index with
    | none => ([], some (.truncated b.bytes.length))
    | some (nameLen, codeLen) =>
      if b.namePool + nameAt + nameLen.toNat > b.bytes.length then
        ([], some (.outOfBounds (UInt32.ofNat index) (b.namePool + nameAt) nameLen))
      else if b.bytecodePool + codeAt + codeLen.toNat > b.bytes.length then
        ([], some (.outOfBounds (UInt32.ofNat index) (b.bytecodePool + codeAt) codeLen))
      else
        let m : BundleModule :=
          ⟨b.slice (b.namePool + nameAt) nameLen.toNat, b.slice (b.bytecodePool + codeAt) codeLen.toNat⟩
        let rest := b.walk (index + 1) (nameAt + nameLen.toNat) (codeAt + codeLen.toNat)
        (m :: rest.1, rest.2)
  else ([], none)
termination_by b.count.toNat - index

/-- The modules in record order, up to the first one that does not fit. -/
def modules (b : Bundle) : List BundleModule := (b.walk 0 0 0).1

/-- Read a bundle: the header words, the room for length records, and every module's spans.
The first failing check gives the error. -/
def parse (bytes : Bytes) : Except TableError Bundle := do
  let magic ← word bytes 0
  if magic ≠ bundleMagic then throw (.badMagic bundleMagic magic)
  if bytes.length < headerLen then throw (.truncated bytes.length)
  let namePool ← word bytes 4
  let bytecodePool ← word bytes 8
  let count ← word bytes 12
  let room := (bytes.length - headerLen) / recordLen
  if count.toNat > room then throw (.tooManyModules count room)
  let b : Bundle := ⟨bytes, namePool.toNat, bytecodePool.toNat, count⟩
  match (b.walk 0 0 0).2 with
  | some e => throw e
  | none => pure b

/-- Number of modules. -/
def len (b : Bundle) : UInt32 := b.count

/-- The bundle holds no module. -/
def isEmpty (b : Bundle) : Bool := b.count == 0

/-- The bytecode of the first module with this name. -/
def find (b : Bundle) (name : Bytes) : Option Bytes :=
  (b.modules.find? (·.name == name)).map (·.bytecode)

/-- The module the entry record names: the first entry record's bytecode is a module name, and
the first module with that name is the entry. -/
def entryModule (b : Bundle) : Except TableError BundleModule :=
  match b.find entryRecordName with
  | none => .error .noEntryRecord
  | some name =>
    match b.modules.find? (·.name == name) with
    | some m => .ok m
    | none => .error .missingEntry

end Bundle

/-- The program to run: the entry module of the linked bundle, or the built-in program when the
linked bytes are no bundle at all (their first word is not the magic). Any other fault of the
bundle is an error. -/
def selectEntry (linked builtin : Bytes) : Except TableError Bytes :=
  match Bundle.parse linked with
  | .ok b => (b.entryModule).map (·.bytecode)
  | .error (.badMagic _ _) => .ok builtin
  | .error e => .error e

end DeviceBoot
