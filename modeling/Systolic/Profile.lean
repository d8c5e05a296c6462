namespace Systolic

/-- A range of physical addresses that the host maps. -/
structure Window where
  base : Nat
  span : Nat
deriving DecidableEq

def Window.contains (w : Window) (offset len : Nat) : Bool := offset + len ≤ w.span

/-- The array's own control block. Its registers are counted in words from `base`. -/
structure ControlBlock where
  base : Nat
  control : Nat
  status : Nat
  busyMask : UInt32
  rowCount : Option Nat
  weightLatch : Option Nat
  loadWeights : UInt32
  execute : UInt32
deriving DecidableEq

def ControlBlock.offset (b : ControlBlock) (word : Nat) : Nat := b.base + 4 * word

/-- The control value that parks the sequencer. -/
def ControlBlock.idle : UInt32 := 0

/-- Which bits of a descriptor's control word mean what. A flag without a bit is zero. -/
structure Flags where
  go : UInt32
  startOfPacket : UInt32
  endOfPacket : UInt32
  endOnLength : UInt32
  endOnPacket : UInt32
deriving DecidableEq

namespace Flags

def standard : Flags where
  go := 0x80000000
  startOfPacket := 0x100
  endOfPacket := 0x200
  endOnLength := 0
  endOnPacket := 0x1000

def hps : Flags where
  go := 0x80000000
  startOfPacket := 0x8000000
  endOfPacket := 0x4000000
  endOnLength := 0x800000
  endOnPacket := 0x400000

/-- The control word that sends memory to the array: one packet, marked at both ends. -/
def readStream (f : Flags) : UInt32 := f.go ||| f.startOfPacket ||| f.endOfPacket

/-- The control word that takes results to memory, until it is full or the packet ends. -/
def writeStream (f : Flags) : UInt32 := f.go ||| f.endOnLength ||| f.endOnPacket

end Flags

/-- Where one streaming engine keeps its status and control words, and its descriptor. -/
structure EngineBlock where
  csr : Nat
  descriptor : Nat
deriving DecidableEq

/-- The two streaming engines: `read` feeds the array from memory, `write` drains it to memory. -/
structure Dispatchers where
  read : EngineBlock
  write : EngineBlock
  flags : Flags
deriving DecidableEq

/-- The registers of a DMA engine inside the control block, in words. -/
structure IntegratedDma where
  readAddress : Nat
  readLength : Nat
  writeAddress : Nat
  writeControl : Nat
deriving DecidableEq

namespace IntegratedDma

def startRead : UInt32 := 0x10000
def startWrite : UInt32 := 0x20000
def doneMask : UInt32 := 0x30000
def lengthMask : UInt32 := 0xffff

end IntegratedDma

/-- The registers of a single element that the host drives by hand, in words. It has no status: its
result is good once it has settled. -/
structure MacBlock where
  control : Nat
  xIn : Nat
  yIn : Nat
  yOut : Nat
deriving DecidableEq

namespace MacBlock

def loadWeight : UInt32 := 1
def valid : UInt32 := 2

end MacBlock

/-- All that tells one board from another. -/
structure Profile where
  name : String
  summary : String
  controlWindow : Window
  sharedWindow : Window
  busBase : UInt32
  block : ControlBlock
  dispatchers : Option Dispatchers
  integrated : Option IntegratedDma
  mac : Option MacBlock
deriving DecidableEq

namespace Profile

def streamingBlock : ControlBlock where
  base := 0x30000
  control := 0
  status := 1
  busyMask := 1
  rowCount := some 6
  weightLatch := some 7
  loadWeights := 3
  execute := 1

def streamingEngines (flags : Flags) : Dispatchers where
  read := ⟨0x31000, 0x31040⟩
  write := ⟨0x31020, 0x31050⟩
  flags := flags

def registers : Window := ⟨0xff200000, 0x200000⟩
def staging : Window := ⟨0x20000000, 0x1000000⟩

def hpsMsgdma : Profile where
  name := "hps-msgdma"
  summary := "Linux HPS host, streaming dispatchers (HPS flag layout), row-count EOP"
  controlWindow := registers
  sharedWindow := staging
  busBase := 0x20000000
  block := streamingBlock
  dispatchers := some (streamingEngines .hps)
  integrated := none
  mac := none

def niosMsgdma : Profile where
  name := "nios-msgdma"
  summary := "Streaming dispatchers (standard flag layout), no row-count register"
  controlWindow := registers
  sharedWindow := staging
  busBase := 0x20000000
  block := { streamingBlock with rowCount := none }
  dispatchers := some (streamingEngines .standard)
  integrated := none
  mac := none

/-- The oldest board. Its two control values are exchanged: three executes, one loads. -/
def niosLegacy : Profile where
  name := "nios-legacy"
  summary := "Legacy bitstream: integrated DMA + single MAC PE, no dispatchers"
  controlWindow := registers
  sharedWindow := staging
  busBase := 0x20000000
  block :=
    { streamingBlock with weightLatch := none, loadWeights := 1, execute := 3 }
  dispatchers := none
  integrated := some ⟨2, 3, 4, 5⟩
  mac := some ⟨8, 9, 10, 11⟩

/-- The boards there are, the usual one first. -/
def all : List Profile := [hpsMsgdma, niosMsgdma, niosLegacy]

def find? (name : String) : Option Profile := all.find? fun p => p.name == name

/-- The offsets of the registers that the control block has on this board. -/
def blockOffsets (p : Profile) : List Nat :=
  let words := [p.block.control, p.block.status] ++ p.block.rowCount.toList ++
    p.block.weightLatch.toList ++
    (p.integrated.map fun d =>
      [d.readAddress, d.readLength, d.writeAddress, d.writeControl]).getD [] ++
    (p.mac.map fun m => [m.control, m.xIn, m.yIn, m.yOut]).getD []
  words.map p.block.offset

end Profile

end Systolic
