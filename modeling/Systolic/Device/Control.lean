import Systolic.Board
import Systolic.Device.Streaming

namespace Systolic.Device

/-- A descriptor counts once its control word says go. -/
def commit (d : Device) (direction : Direction) : Device :=
  let descriptor := (d.engine direction).descriptor
  match d.profile.dispatchers with
  | none => d
  | some pair =>
    if descriptor.control &&& pair.flags.go = 0 then d
    else
      match direction with
      | .write => { d with drain := some ⟨descriptor.writeAddress, descriptor.length⟩ }
      | .read => d.feed descriptor.readAddress descriptor.length.toNat

/-- A reset empties the engine's descriptor and, for the one that drains, the drain; its bit is gone
again at once unless the engine is stuck. -/
def controlEngine (d : Device) (direction : Direction) (value : UInt32) : Device :=
  if value &&& Csr.reset = 0 then
    d.setEngine direction { d.engine direction with control := value }
  else
    let control :=
      if d.faults.stuckReset = some (.stream direction) then value else value &&& ~~~Csr.reset
    let drain := if direction = .write then none else d.drain
    { d with drain }.setEngine direction ⟨control, .zero⟩

def setDescriptorByte (d : Device) (direction : Direction) (byte : Fin 16) (value : UInt32) :
    Device :=
  let engine := d.engine direction
  let written := d.setEngine direction
    { engine with descriptor := engine.descriptor.setWord (Descriptor.wordOf byte) value }
  if byte.val = Descriptor.controlSlot then written.commit direction else written

/-- The latch acts when it rises. -/
def setLatch (d : Device) (value : UInt32) : Device :=
  if value ≠ 0 ∧ d.latch = 0 then
    { d with latch := value, active := d.shadow, latchPulses := d.latchPulses + 1 }
  else { d with latch := value }

/-- Starts the engine inside the control block if both its halves are asked for. It counts as done
also when there was nothing to do. -/
def startIntegrated (d : Device) (dma : IntegratedDma) (value : UInt32) : Device :=
  let start := IntegratedDma.startRead ||| IntegratedDma.startWrite
  let d := { d with integratedStatus := d.integratedStatus &&& ~~~IntegratedDma.doneMask }
  if value &&& start ≠ start then d
  else
    let d :=
      if d.command = d.profile.block.execute then
        d.stream (d.word dma.readAddress) (4 * (d.word dma.readLength).toNat)
          (d.word dma.writeAddress) (4 * (value &&& IntegratedDma.lengthMask).toNat)
      else d
    if d.faults.stuckDma = some .integrated then d
    else { d with integratedStatus := d.integratedStatus ||| IntegratedDma.doneMask }

def strobe (d : Device) (mac : MacBlock) (value : UInt32) : Device :=
  let x := (d.word mac.xIn).toInt32
  if value = MacBlock.loadWeight then { d with macWeight := x }
  else if value = MacBlock.valid then
    { d with macResult := (d.word mac.yIn).toInt32 + x * d.macWeight }
  else d

def keep (d : Device) (offset : Nat) (value : UInt32) : Device :=
  { d with registers := d.registers.set offset value }

def write (d : Device) (offset : Nat) (value : UInt32) : Device :=
  match d.profile.register offset with
  | .engineStatus _ => d
  | .engineControl direction => d.controlEngine direction value
  | .descriptor direction byte => d.setDescriptorByte direction byte value
  | .command => { d with command := value }
  | .latch => d.setLatch value
  | .writeControl =>
    match d.profile.integrated with
    | some dma => (d.keep offset value).startIntegrated dma value
    | none => d.keep offset value
  | .macControl =>
    match d.profile.mac with
    | some mac => d.strobe mac value
    | none => d
  | .status | .macResult | .plain => d.keep offset value

def board (timing : Timing) : Board Device where
  read d offset := some (d.read offset, d)
  write d offset value := some (d.write offset value)
  memory := memory
  withMemory d memory := { d with memory }
  timing := timing

end Systolic.Device
