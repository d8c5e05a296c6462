import Systolic.Program
import Systolic.Region
import Systolic.Wire

namespace Systolic.Staging

open Program

/-- Asks for a range of a shared memory of `size` bytes that is to pass through a buffer of the host.
The buffer comes first: a host that cannot have one so long halts, and so does not come to find that
the range is out of bounds. -/
def buffer (size offset len : Nat) : Attempt Unit := do
  if size < offset + len ∧ Memory.bound ≤ len then halt
  Region.checkRange offset len size

def readBytes (size offset len : Nat) : Attempt (List UInt8) := do
  buffer size offset len
  loadBytes offset len

def writeBytes (size offset : Nat) (bytes : List UInt8) : Attempt Unit := do
  Region.checkRange offset bytes.length size
  storeBytes offset bytes

def zero (size offset len : Nat) : Attempt Unit := do
  buffer size offset len
  clearBytes offset len

/-- Puts bytes at the start of a region that has room for them. -/
def place (size : Nat) (r : Region) (bytes : List UInt8) : Attempt Unit := do
  if r.len < bytes.length then
    throw (.invalidArgument (.regionRoom r.name r.len bytes.length))
  writeBytes size r.offset bytes

def writeWeights (size : Nat) (r : Region) (ms : List Operand) : Attempt Unit :=
  place size r (Wire.weightBatch ms)

def writeInputs (size : Nat) (r : Region) (ms : List Operand) : Attempt Unit :=
  place size r (Wire.inputBatch ms)

def clear (size : Nat) (r : Region) : Attempt Unit := zero size r.offset r.len

/-- The first `count` results of a region. They mean something once the run that makes them has been
waited for. -/
def readOutputs (size : Nat) (r : Region) (count : Nat) : Attempt (List Output) := do
  if r.len < 256 * count then throw (.invalidArgument (.regionOutputs r.name count))
  return Wire.ofOutputBatch (← readBytes size r.offset (256 * count))

end Systolic.Staging
