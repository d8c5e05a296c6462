import Systolic.Profile

namespace Systolic

/-- Which way a streaming engine moves data. -/
inductive Direction where
  | read
  | write
deriving DecidableEq

/-- One request to a streaming engine. An engine ignores the address of the other direction. -/
structure Descriptor where
  readAddress : UInt32
  writeAddress : UInt32
  length : UInt32
  control : UInt32
deriving DecidableEq

namespace Descriptor

def zero : Descriptor := ⟨0, 0, 0, 0⟩

def readStream (f : Flags) (source length : UInt32) : Descriptor := ⟨source, 0, length, f.readStream⟩

def writeStream (f : Flags) (sink length : UInt32) : Descriptor := ⟨0, sink, length, f.writeStream⟩

/-- The offset of a descriptor's control word, whose write hands the descriptor over. -/
def controlSlot : Nat := 12

/-- A descriptor as the words to write, in order, each with its offset. The control word is the last
one, for the engine takes the others as they stand when it comes. -/
def words (d : Descriptor) : List (Nat × UInt32) :=
  [(0, d.readAddress), (4, d.writeAddress), (8, d.length), (controlSlot, d.control)]

/-- The word that a byte of a descriptor belongs to. -/
def wordOf (byte : Fin 16) : Fin 4 := ⟨byte.val / 4, Nat.div_lt_of_lt_mul byte.isLt⟩

def word (d : Descriptor) : Fin 4 → UInt32
  | 0 => d.readAddress
  | 1 => d.writeAddress
  | 2 => d.length
  | 3 => d.control

def setWord (d : Descriptor) (i : Fin 4) (value : UInt32) : Descriptor :=
  match i with
  | 0 => { d with readAddress := value }
  | 1 => { d with writeAddress := value }
  | 2 => { d with length := value }
  | 3 => { d with control := value }

end Descriptor

namespace Csr

def statusOffset : Nat := 0
def controlOffset : Nat := 4

def busy : UInt32 := 1

/-- Written to the status word, clears every event in it. -/
def clearAll : UInt32 := 0xffffffff

/-- Starts a reset, and reads back as zero once the reset is over. -/
def reset : UInt32 := 2

def interruptEnable : UInt32 := 0x10
def stop : UInt32 := 0x20

end Csr

namespace EngineBlock

def status (b : EngineBlock) : Nat := b.csr + Csr.statusOffset

def control (b : EngineBlock) : Nat := b.csr + Csr.controlOffset

end EngineBlock

def Dispatchers.block (d : Dispatchers) : Direction → EngineBlock
  | .read => d.read
  | .write => d.write

end Systolic
