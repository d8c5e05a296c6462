import Systolic.Board
import Systolic.Region

namespace Systolic

/-- A window of physical memory that the host has mapped, with plain RAM behind it. -/
structure MappedWindow where
  base : Nat
  memory : Memory

namespace MappedWindow

def pageSize : Nat := 4096

/-- A window must have bytes and start at a page. -/
def map (w : Window) : Except Failure MappedWindow :=
  if w.span = 0 then .error (.mapFailed w.base 0 "empty window")
  else if w.base % pageSize ≠ 0 then
    .error (.mapFailed w.base w.span "Invalid argument (os error 22)")
  else .ok ⟨w.base, .zeroed w.span⟩

/-- Registers are whole words at offsets that are multiples of four. -/
def HasRegister (w : MappedWindow) (offset : Nat) : Prop :=
  offset % 4 = 0 ∧ offset + 4 ≤ w.memory.size

instance (w : MappedWindow) (offset : Nat) : Decidable (w.HasRegister offset) :=
  inferInstanceAs (Decidable (_ ∧ _))

def readRegister (w : MappedWindow) (offset : Nat) : Option UInt32 :=
  if w.HasRegister offset then some (w.memory.word offset) else none

def writeRegister (w : MappedWindow) (offset : Nat) (value : UInt32) : Option MappedWindow :=
  if w.HasRegister offset then some { w with memory := w.memory.storeWord offset value } else none

def board (timing : Timing) : Board MappedWindow where
  read w offset := do
    let value ← w.readRegister offset
    return (value, w)
  write := writeRegister
  memory := memory
  withMemory w memory := { w with memory }
  timing := timing

end MappedWindow

/-- Both windows of a board. -/
structure MappedBoard where
  control : MappedWindow
  shared : MappedWindow

namespace MappedBoard

/-- Maps the windows of a profile from a memory device, if there is one. -/
def openDevice (present : Bool) (p : Profile) : Except Failure MappedBoard := do
  unless present do throw (.io "No such file or directory (os error 2)")
  return ⟨← MappedWindow.map p.controlWindow, ← MappedWindow.map p.sharedWindow⟩

def board (timing : Timing) : Board MappedBoard where
  read b offset := do
    let value ← b.control.readRegister offset
    return (value, b)
  write b offset value := do
    let control ← b.control.writeRegister offset value
    return { b with control }
  memory b := b.shared.memory
  withMemory b memory := { b with shared := { b.shared with memory } }
  timing := timing

end MappedBoard

end Systolic
