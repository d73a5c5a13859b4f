import DeviceBoot.Word.LittleEndian
/-!
# Fixed settings of the device

Where the firmware's jump table lives and which of its entries the boot layer calls, the serial
channel for standard output, the console's buffer and patience, the two magic numbers, and the
names of the entry record and entry module.
-/

namespace DeviceBoot

/-- The package name the device image and its build tool carry. -/
def packageName : String := "mpboot"

/-- The package version the device image and its build tool carry. -/
def packageVersion : String := "0.1.0"

/-- Address of the firmware's jump table. -/
def jumpTableBase : Nat := 0x037fc000

/-- Offset of the serial write entry in the jump table. -/
def serialWriteOffset : Nat := 0x89c

/-- Offset of the cooperative-tick entry in the jump table. -/
def tasksRunOffset : Nat := 0x05c

/-- Offset of the exit-request entry in the jump table. -/
def exitRequestOffset : Nat := 0x130

/-- The serial channel that carries standard output. -/
def stdioChannel : UInt32 := 1

/-- Bytes the console stages before it must send. -/
def consoleBufferSize : Nat := 256

/-- Rounds in a row a channel may accept nothing before the rest of a write is dropped. -/
def consoleStallTicks : Nat := 64

/-- First word of every signature header. -/
def signatureMagic : UInt32 := 0x35585658

/-- First word of every bytecode bundle. -/
def bundleMagic : UInt32 := 0x675c3ed9

/-- Name of the bundle record whose bytecode names the entry module. -/
def entryRecordName : Bytes := "__mpboot_entry__".toUTF8.toList

/-- Name the entry program's module is created under. -/
def entryModuleName : String := "__main__"

/-- Registers a root scan captures besides the stack. -/
def capturedRegisters : Nat := 6

/-- How the boot sequence talks: its standard-output channel and whether it reports progress. -/
structure BootConfig where
  stdioChannel : UInt32 := DeviceBoot.stdioChannel
  verbose : Bool := false
  deriving DecidableEq, Repr

end DeviceBoot
