import Systolic.Device

namespace Systolic.Device

/-- The `i`-th block of a feed of `len` bytes from `source` on, zero past the end of the feed. -/
def inputBlock (m : Memory) (source len i : Nat) : Vector UInt8 64 :=
  .ofFn fun k =>
    if 64 * i + k.val < len then m.byte (source + 64 * i + k.val) else 0

/-- Multiplies the `i`-th block of eight rows and puts as many of its results at their place as there
are rows. -/
def multiplyBlock (weights : Operand) (source len sink rows : Nat) (m : Memory) (i : Nat) : Memory :=
  let results := Wire.outputs (Wire.ofInputs (inputBlock m source len i) * weights)
  m.store (sink + 256 * i) (results.toList.take (32 * min 8 (rows - 8 * i)))

/-- Multiplies block after block, so that a block sees what the blocks before it have written. -/
def multiply (weights : Operand) (source len sink rows : Nat) (m : Memory) : Memory :=
  (List.range ((rows + 7) / 8)).foldl (multiplyBlock weights source len sink rows) m

/-- The rows that pass: those fed, as far as there is room for their results and as the row count, if
there is one, lets them. -/
def rowsPassing (limit : Option Nat) (len room : Nat) : Nat :=
  let rows := min (len / 8) (room / 32)
  match limit with
  | some r => min r rows
  | none => rows

/-- Where in shared memory a range of bus addresses lies, if all of it does. -/
def offset? (d : Device) (bus : UInt32) (len : Nat) : Option Nat :=
  let offset := bus.toNat - d.profile.busBase.toNat
  if d.profile.busBase ≤ bus ∧ d.memory.Holds offset len then some offset else none

def rowLimit (d : Device) : Option Nat :=
  d.profile.block.rowCount.map fun index => (d.word index).toNat

/-- Streams `len` bytes through the array into `room` bytes at `sink`. The whole feed and all the
results must lie in shared memory, or nothing happens. -/
def stream (d : Device) (source : UInt32) (len : Nat) (sink : UInt32) (room : Nat) : Device :=
  let rows := rowsPassing d.rowLimit len room
  if rows = 0 then d
  else
    match d.offset? source len, d.offset? sink (32 * rows) with
    | some s, some t =>
      { d with
        memory := multiply d.active s len t rows d.memory
        rowsStreamed := d.rowsStreamed + rows }
    | _, _ => d

/-- Takes in weights. Of several matrices in a row the last whole one stays; without a latch it goes
into use at once. -/
def takeWeights (d : Device) (source : UInt32) (len : Nat) : Device :=
  match d.offset? source len with
  | none => d
  | some s =>
    let shadow :=
      if len < 64 then d.shadow
      else Wire.ofWeights (d.memory.block (s + 64 * (len / 64 - 1)) 64)
    let active := if d.profile.block.weightLatch.isSome then d.active else shadow
    { d with shadow, active }

/-- What a feed is for depends on the command: weights, or inputs for the armed drain, which is used
up whether or not the inputs come to anything. -/
def feed (d : Device) (source : UInt32) (len : Nat) : Device :=
  if d.command = d.profile.block.loadWeights then d.takeWeights source len
  else if d.command = d.profile.block.execute then
    match d.drain with
    | some drain =>
      { d with drain := none }.stream source len drain.sink drain.length.toNat
    | none => d
  else d

end Systolic.Device
