import Systolic.Failure

namespace Systolic

/-- A named range of the shared window, and the bus address its first byte has for the engines. -/
structure Region where
  name : String
  offset : Nat
  len : Nat
  bus : UInt32
deriving DecidableEq

namespace Region

def stop (r : Region) : Nat := r.offset + r.len

def overlaps (r s : Region) : Bool := r.offset < s.stop && s.offset < r.stop

/-- The bus address of the byte at `offset`. -/
def busAddress? (base : UInt32) (offset : Nat) : Option UInt32 :=
  if base.toNat + offset < UInt32.size then some (base + UInt32.ofNat offset) else none

/-- Whether a range lies within `limit` bytes. -/
def checkRange (offset len limit : Nat) : Except Failure Unit :=
  if offset + len ≤ limit then .ok () else .error (.outOfBounds offset len limit)

/-- The region of `count` matrices of `each` bytes from `offset` on. Its length must be a number of 64
bits, it must lie in the window, and its end must still have a bus address of 32 bits. -/
def place (windowLen : Nat) (busBase : UInt32) (name : String) (offset count each : Nat) :
    Except Failure Region := do
  let len := count * each
  unless len < UInt64.size do throw (.invalidArgument (.regionLength name))
  checkRange offset len windowLen
  match busAddress? busBase offset with
  | some bus =>
    unless bus.toNat + len < UInt32.size do throw (.invalidArgument (.regionAddress name))
    return ⟨name, offset, len, bus⟩
  | none => throw (.invalidArgument (.regionAddress name))

def checkApart (r s : Region) : Except Failure Unit :=
  if r.overlaps s then .error (.regionOverlap r.name s.name) else .ok ()

end Region

/-- Regions for weights, inputs and outputs. -/
structure Placement where
  weights : Region
  inputs : Region
  outputs : Region
deriving DecidableEq

/-- Where in the shared window each region starts. -/
structure Layout where
  weights : Nat
  inputs : Nat
  outputs : Nat
deriving DecidableEq

namespace Layout

def default : Layout := ⟨0, 0x1000, 0x4000⟩

/-- Makes room for `weightCount` weight matrices and a batch of inputs and outputs in a window of
`windowLen` bytes. Each region is checked by itself, in order, before any two are held against each
other. -/
def place (layout : Layout) (windowLen : Nat) (busBase : UInt32) (weightCount batch : Nat) :
    Except Failure Placement := do
  if weightCount = 0 ∨ batch = 0 then throw (.invalidArgument .emptyRegions)
  let weights ← Region.place windowLen busBase "weights" layout.weights weightCount 64
  let inputs ← Region.place windowLen busBase "inputs" layout.inputs batch 64
  let outputs ← Region.place windowLen busBase "outputs" layout.outputs batch 256
  weights.checkApart inputs
  weights.checkApart outputs
  inputs.checkApart outputs
  return ⟨weights, inputs, outputs⟩

def placeFor (layout : Layout) (p : Profile) (weightCount batch : Nat) : Except Failure Placement :=
  layout.place p.sharedWindow.span p.busBase weightCount batch

end Layout

end Systolic
