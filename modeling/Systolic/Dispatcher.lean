import Systolic.Program

namespace Systolic

/-- One streaming engine as the host sees it. A descriptor handed to it is on its own: handing over
waits for nothing, and at most one is under way at a time. -/
structure Dispatcher where
  direction : Direction
  block : EngineBlock
  flags : Flags
deriving DecidableEq

def Dispatchers.engine (d : Dispatchers) (direction : Direction) : Dispatcher :=
  ⟨direction, d.block direction, d.flags⟩

namespace Dispatcher

open Program

/-- Resets the engine and leaves it idle with no events and no interrupts. What comes after the wait
comes also after a wait that ran out. -/
def reset (d : Dispatcher) (limit : PollLimit) : Program PollOutcome := do
  writeRegister d.block.control Csr.reset
  let outcome ← pollRegister limit d.block.control fun value => value &&& Csr.reset == 0
  writeRegister d.block.status Csr.clearAll
  writeRegister d.block.control 0
  return outcome

def push (d : Dispatcher) (descriptor : Descriptor) : Program Unit :=
  descriptor.words.forM fun (offset, value) => writeRegister (d.block.descriptor + offset) value

def expect (d : Dispatcher) (wanted : Direction) : Except Failure Unit :=
  if d.direction = wanted then .ok ()
  else .error (.invalidArgument (.wrongEngine wanted d.direction))

/-- A length as the word that a descriptor holds. -/
def lengthWord (len : Nat) : Except Failure UInt32 :=
  if len = 0 then .error (.invalidArgument .emptyTransfer)
  else if len < UInt32.size then .ok (UInt32.ofNat len)
  else .error (.invalidArgument (.longTransfer len))

/-- Has `len` bytes from bus address `source` on sent into the array. -/
def pushRead (d : Dispatcher) (source : UInt32) (len : Nat) : Attempt Unit := do
  d.expect .read
  let length ← lengthWord len
  d.push (.readStream d.flags source length)

/-- Has up to `len` bytes of results taken to bus address `sink`. -/
def pushWrite (d : Dispatcher) (sink : UInt32) (len : Nat) : Attempt Unit := do
  d.expect .write
  let length ← lengthWord len
  d.push (.writeStream d.flags sink length)

def isBusy (d : Dispatcher) : Program Bool := do
  let value ← readRegister d.block.status
  return value &&& Csr.busy != 0

def waitIdle (d : Dispatcher) (limit : PollLimit) : Program PollOutcome :=
  pollRegister limit d.block.status fun value => value &&& Csr.busy == 0

end Dispatcher

end Systolic
