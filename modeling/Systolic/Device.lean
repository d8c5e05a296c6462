import Systolic.Failure
import Systolic.Memory
import Systolic.Wire

namespace Systolic

/-- What can go wrong with a device: an engine that never finishes, an array that never rests, an
engine that never comes out of its reset. -/
structure Faults where
  stuckDma : Option Engine
  stuckBusy : Bool
  stuckReset : Option Engine
deriving DecidableEq

def Faults.none : Faults := ⟨.none, false, .none⟩

/-- The words that one streaming engine keeps. -/
structure EngineState where
  control : UInt32
  descriptor : Descriptor
deriving DecidableEq

/-- Where results go, and how many bytes of them. -/
structure Drain where
  sink : UInt32
  length : UInt32
deriving DecidableEq

/-- A board as software can observe it. Every transfer is over as soon as it is started, so nothing is
ever seen to be busy except by a fault. Weights are loaded beside the ones in use and change places
with them at a pulse of the latch. -/
structure Device where
  profile : Profile
  faults : Faults
  memory : Memory
  registers : Sparse UInt32
  command : UInt32
  reader : EngineState
  writer : EngineState
  drain : Option Drain
  shadow : Operand
  active : Operand
  latch : UInt32
  latchPulses : Nat
  integratedStatus : UInt32
  macWeight : Int32
  macResult : Int32
  rowsStreamed : Nat
deriving DecidableEq

/-- What an offset in the control window is the offset of. -/
inductive Register where
  | engineStatus (direction : Direction)
  | engineControl (direction : Direction)
  | descriptor (direction : Direction) (byte : Fin 16)
  | command
  | status
  | latch
  | writeControl
  | macControl
  | macResult
  | plain
deriving DecidableEq

namespace EngineBlock

def register? (b : EngineBlock) (direction : Direction) (offset : Nat) : Option Register :=
  if offset = b.status then some (.engineStatus direction)
  else if offset = b.control then some (.engineControl direction)
  else if h : b.descriptor ≤ offset ∧ offset < b.descriptor + 16 then
    some (.descriptor direction ⟨offset - b.descriptor, by omega⟩)
  else none

end EngineBlock

namespace Profile

def blockRegister (p : Profile) (offset : Nat) : Register :=
  if offset = p.block.offset p.block.control then .command
  else if offset = p.block.offset p.block.status then .status
  else if p.block.weightLatch.map p.block.offset = some offset then .latch
  else if p.integrated.map (fun d => p.block.offset d.writeControl) = some offset then .writeControl
  else if p.mac.map (fun m => p.block.offset m.control) = some offset then .macControl
  else if p.mac.map (fun m => p.block.offset m.yOut) = some offset then .macResult
  else .plain

def register (p : Profile) (offset : Nat) : Register :=
  match p.dispatchers with
  | some d =>
    (d.read.register? .read offset <|> d.write.register? .write offset).getD (p.blockRegister offset)
  | none => p.blockRegister offset

end Profile

namespace Device

def fresh (profile : Profile) (memory : Memory) : Device where
  profile := profile
  faults := .none
  memory := memory
  registers := .empty
  command := 0
  reader := ⟨0, .zero⟩
  writer := ⟨0, .zero⟩
  drain := none
  shadow := .fill 0
  active := .fill 0
  latch := 0
  latchPulses := 0
  integratedStatus := 0
  macWeight := 0
  macResult := 0
  rowsStreamed := 0

/-- A board of this profile with its whole shared window. -/
def ofProfile (profile : Profile) : Device := fresh profile (.zeroed profile.sharedWindow.span)

def engine (d : Device) : Direction → EngineState
  | .read => d.reader
  | .write => d.writer

def setEngine (d : Device) (direction : Direction) (e : EngineState) : Device :=
  match direction with
  | .read => { d with reader := e }
  | .write => { d with writer := e }

/-- A register of the control block that only keeps what it is given. -/
def word (d : Device) (index : Nat) : UInt32 := d.registers.get (d.profile.block.offset index)

def read (d : Device) (offset : Nat) : UInt32 :=
  match d.profile.register offset with
  | .engineStatus direction =>
    if d.faults.stuckDma = some (.stream direction) then Csr.busy else 0
  | .engineControl direction => (d.engine direction).control
  | .descriptor direction byte =>
    (d.engine direction).descriptor.word (Descriptor.wordOf byte)
  | .command => d.command
  | .status =>
    (if d.faults.stuckBusy then d.profile.block.busyMask else 0) ||| d.integratedStatus
  | .macResult => d.macResult.toUInt32
  | .latch | .writeControl | .macControl | .plain => d.registers.get offset

end Device

end Systolic
