import Systolic.Device.Control
import Systolic.Proofs.Codec

namespace Systolic

variable {n : Nat}

/-- What is left of `a` when `b` is taken from it, if it is that much. -/
def difference? (a b : Nat) : Option Nat := if b ≤ a then some (a - b) else none

theorem difference?_of_le {a b : Nat} (enough : b ≤ a) : difference? a b = some (a - b) := if_pos enough

/-- The bytes from `start` up to `stop`, if memory has them. -/
def Memory.slice? (m : Memory) (start stop : Nat) : Option (List UInt8) :=
  if start ≤ stop ∧ stop ≤ m.size then some (m.load start (stop - start)) else none

theorem Memory.slice?_of_inside (m : Memory) {start len : Nat} (inside : start + len ≤ m.size) :
    m.slice? start (start + len) = some (m.load start len) := by
  rw [slice?, if_pos ⟨Nat.le_add_right start len, inside⟩, Nat.add_sub_cancel_left]

/-- Puts bytes from `start` up to `stop`, if memory has that range and they fill it. -/
def Memory.overwrite? (m : Memory) (start stop : Nat) (bytes : List UInt8) : Option Memory :=
  if start ≤ stop ∧ stop ≤ m.size ∧ bytes.length = stop - start then some (m.store start bytes) else none

theorem Memory.overwrite?_of_inside (m : Memory) {start len : Nat} {bytes : List UInt8} (fills : bytes.length = len)
    (inside : start + len ≤ m.size) : m.overwrite? start (start + len) bytes = some (m.store start bytes) := by
  rw [overwrite?, if_pos ⟨Nat.le_add_right start len, inside, by omega⟩]

/-- A block that begins with some bytes and is zero after them, if it has room for them. -/
def padded? (n : Nat) (bytes : List UInt8) : Option (Vector UInt8 n) :=
  if bytes.length ≤ n then some (.ofFn fun i => bytes[i.val]?.getD 0) else none

/-- The first bytes of a block, if it has as many. -/
def front? (block : Vector UInt8 n) (len : Nat) : Option (List UInt8) :=
  if len ≤ n then some (block.toList.take len) else none

namespace Device

/-- As `multiplyBlock`, but with every range and every difference asked for. -/
def multiplyBlock? (weights : Operand) (source len sink rows : Nat) (m : Memory) (i : Nat) : Option Memory := do
  let start := source + 64 * i
  let unread ← difference? (source + len) start
  let fed ← m.slice? start (start + min 64 unread)
  let block ← padded? 64 fed
  let results := Wire.outputs (Wire.ofInputs block * weights)
  let unwritten ← difference? rows (8 * i)
  let produced := 32 * min 8 unwritten
  let bytes ← front? results produced
  m.overwrite? (sink + 256 * i) (sink + 256 * i + produced) bytes

def multiply? (weights : Operand) (source len sink rows : Nat) (m : Memory) : Option Memory :=
  (List.range ((rows + 7) / 8)).foldlM (multiplyBlock? weights source len sink rows) m

def stream? (d : Device) (source : UInt32) (len : Nat) (sink : UInt32) (room : Nat) : Option Device :=
  let rows := rowsPassing d.rowLimit len room
  if rows = 0 then some d
  else
    match d.offset? source len, d.offset? sink (32 * rows) with
    | some s, some t => do
      let memory ← multiply? d.active s len t rows d.memory
      some { d with memory, rowsStreamed := d.rowsStreamed + rows }
    | _, _ => some d

/-- As `takeWeights`, but matrix after matrix of the range asked for. -/
def takeWeights? (d : Device) (source : UInt32) (len : Nat) : Option Device :=
  match d.offset? source len with
  | none => some d
  | some s => do
    let run ← d.memory.slice? s (s + len)
    let shadow := (blocks 64 run).foldl (fun _ block => Wire.ofWeights block) d.shadow
    let active := if d.profile.block.weightLatch.isSome then d.active else shadow
    some { d with shadow, active }

def feed? (d : Device) (source : UInt32) (len : Nat) : Option Device :=
  if d.command = d.profile.block.loadWeights then d.takeWeights? source len
  else if d.command = d.profile.block.execute then
    match d.drain with
    | some drain => { d with drain := none }.stream? source len drain.sink drain.length.toNat
    | none => some d
  else some d

def commit? (d : Device) (direction : Direction) : Option Device :=
  let descriptor := (d.engine direction).descriptor
  match d.profile.dispatchers with
  | none => some d
  | some pair =>
    if descriptor.control &&& pair.flags.go = 0 then some d
    else
      match direction with
      | .write => some { d with drain := some ⟨descriptor.writeAddress, descriptor.length⟩ }
      | .read => d.feed? descriptor.readAddress descriptor.length.toNat

def setDescriptorByte? (d : Device) (direction : Direction) (byte : Fin 16) (value : UInt32) : Option Device :=
  let engine := d.engine direction
  let written := d.setEngine direction
    { engine with descriptor := engine.descriptor.setWord (Descriptor.wordOf byte) value }
  if byte.val = Descriptor.controlSlot then written.commit? direction else some written

def startIntegrated? (d : Device) (dma : IntegratedDma) (value : UInt32) : Option Device := do
  let start := IntegratedDma.startRead ||| IntegratedDma.startWrite
  let d := { d with integratedStatus := d.integratedStatus &&& ~~~IntegratedDma.doneMask }
  if value &&& start ≠ start then some d
  else
    let d ←
      if d.command = d.profile.block.execute then
        d.stream? (d.word dma.readAddress) (4 * (d.word dma.readLength).toNat)
          (d.word dma.writeAddress) (4 * (value &&& IntegratedDma.lengthMask).toNat)
      else some d
    if d.faults.stuckDma = some .integrated then some d
    else some { d with integratedStatus := d.integratedStatus ||| IntegratedDma.doneMask }

/-- As `write`, but with every range of memory and every difference asked for. There is no result where one
is not to be had. Only a descriptor's control word and the write control reach as far as memory. -/
def write? (d : Device) (offset : Nat) (value : UInt32) : Option Device :=
  match d.profile.register offset with
  | .descriptor direction byte => d.setDescriptorByte? direction byte value
  | .writeControl =>
    match d.profile.integrated with
    | some dma => (d.keep offset value).startIntegrated? dma value
    | none => some (d.keep offset value)
  | _ => some (d.write offset value)

section Blocks

variable {weights : Operand} {source len sink rows : Nat} {m : Memory}

/-- The bytes of a feed that are left for a block, with zeros after them. -/
theorem padded?_load (i : Nat) :
    padded? 64 (m.load (source + 64 * i) (min 64 (len - 64 * i))) = some (inputBlock m source len i) := by
  have length := m.length_load (source + 64 * i) (min 64 (len - 64 * i))
  rw [padded?, if_pos (by omega)]
  refine congrArg some (Vector.ext ?_)
  intro k bound
  rw [inputBlock, Vector.getElem_ofFn, Vector.getElem_ofFn]
  dsimp only
  by_cases fed : 64 * i + k < len
  · rw [if_pos fed, List.getElem?_eq_getElem (by omega)]
    simp [Memory.load]
  · rw [if_neg fed, List.getElem?_eq_none (by omega)]
    rfl

/-- A block for which there are rows finds all that it asks for. -/
theorem multiplyBlock?_eq {i : Nat} (row : 8 * i < rows) (fed : 8 * rows ≤ len) (feed : source + len ≤ m.size)
    (room : sink + 32 * rows ≤ m.size) :
    multiplyBlock? weights source len sink rows m i = some (multiplyBlock weights source len sink rows m i) := by
  have unread : difference? (source + len) (source + 64 * i) = some (len - 64 * i) := by
    rw [difference?_of_le (by omega), Nat.add_sub_add_left]
  have slice := m.slice?_of_inside (show source + 64 * i + min 64 (len - 64 * i) ≤ m.size by omega)
  have unwritten : difference? rows (8 * i) = some (rows - 8 * i) := difference?_of_le (by omega)
  have front : ∀ results : Vector UInt8 256, front? results (32 * min 8 (rows - 8 * i)) =
      some (results.toList.take (32 * min 8 (rows - 8 * i))) := fun _ => if_pos (by omega)
  simp only [multiplyBlock?, unread, slice, padded?_load, unwritten, front,
    Option.bind_eq_bind, Option.bind_some]
  exact m.overwrite?_of_inside (by rw [List.length_take, Vector.length_toList]; omega) (by omega)

theorem multiply?_eq (fed : 8 * rows ≤ len) (feed : source + len ≤ m.size) (room : sink + 32 * rows ≤ m.size) :
    multiply? weights source len sink rows m = some (multiply weights source len sink rows m) := by
  have fold : ∀ (blocks : List Nat) (m : Memory), (∀ i ∈ blocks, 8 * i < rows) → source + len ≤ m.size →
      sink + 32 * rows ≤ m.size → blocks.foldlM (multiplyBlock? weights source len sink rows) m =
        some (blocks.foldl (multiplyBlock weights source len sink rows) m) := by
    intro blocks
    induction blocks with
    | nil => exact fun _ _ _ _ => rfl
    | cons i blocks ih =>
      intro m within feed room
      have size : (multiplyBlock weights source len sink rows m i).size = m.size := Memory.size_store ..
      rw [List.foldlM_cons, multiplyBlock?_eq (within i List.mem_cons_self) fed feed room, List.foldl_cons]
      exact ih _ (fun j member => within j (List.mem_cons_of_mem i member)) (by rwa [size]) (by rwa [size])
  refine fold _ m ?_ feed room
  intro i member
  have bound := List.mem_range.mp member
  omega

end Blocks

theorem holds_of_offset? {d : Device} {bus : UInt32} {len offset : Nat} (found : d.offset? bus len = some offset) :
    d.profile.busBase.toNat ≤ bus.toNat ∧ offset = bus.toNat - d.profile.busBase.toNat ∧
      offset + len ≤ d.memory.size := by
  unfold offset? at found
  dsimp only at found
  split at found
  · rename_i holds
    obtain rfl := Option.some.inj found
    exact ⟨UInt32.le_iff_toNat_le.mp holds.1, rfl, holds.2⟩
  · nomatch found

theorem rowsPassing_le (limit : Option Nat) (len room : Nat) :
    8 * rowsPassing limit len room ≤ len ∧ 32 * rowsPassing limit len room ≤ room := by
  unfold rowsPassing
  cases limit with
  | none => dsimp only; omega
  | some r => dsimp only; omega

theorem stream?_eq (d : Device) (source : UInt32) (len : Nat) (sink : UInt32) (room : Nat) :
    d.stream? source len sink room = some (d.stream source len sink room) := by
  have fed := (rowsPassing_le d.rowLimit len room).1
  unfold stream? stream
  dsimp only
  split
  · rfl
  · cases src : d.offset? source len with
    | none => rfl
    | some s =>
      cases dst : d.offset? sink (32 * rowsPassing d.rowLimit len room) with
      | none => rfl
      | some t =>
        obtain ⟨-, -, feed⟩ := holds_of_offset? src
        obtain ⟨-, -, place⟩ := holds_of_offset? dst
        dsimp only
        rw [multiply?_eq fed feed place]
        rfl

/-- Of the matrices in a range the last whole one stays, as it does when they are taken one after the other. -/
theorem foldl_blocks (m : Memory) (offset len : Nat) (first : Operand) :
    (blocks 64 (m.load offset len)).foldl (fun _ block => Wire.ofWeights block) first =
      if len < 64 then first else Wire.ofWeights (m.block (offset + 64 * (len / 64 - 1)) 64) := by
  have cut := m.blocks_load_rest offset (Nat.mod_lt len (by decide : 0 < 64)) (len / 64)
  rw [Nat.div_add_mod] at cut
  rw [cut]
  by_cases none : len < 64
  · rw [if_pos none, Nat.div_eq_of_lt none]
    rfl
  · have last : len / 64 = len / 64 - 1 + 1 := by omega
    rw [if_neg none, last, List.range_succ, List.map_append, List.foldl_append, List.map_singleton, List.foldl_cons,
      List.foldl_nil, Nat.add_sub_cancel]

theorem takeWeights?_eq (d : Device) (source : UInt32) (len : Nat) :
    d.takeWeights? source len = some (d.takeWeights source len) := by
  unfold takeWeights? takeWeights
  cases src : d.offset? source len with
  | none => rfl
  | some s =>
    obtain ⟨-, -, inside⟩ := holds_of_offset? src
    simp only [d.memory.slice?_of_inside inside, foldl_blocks, Option.bind_eq_bind, Option.bind_some]

theorem feed?_eq (d : Device) (source : UInt32) (len : Nat) : d.feed? source len = some (d.feed source len) := by
  unfold feed? feed
  split
  · exact takeWeights?_eq d source len
  · split
    · cases d.drain with
      | none => rfl
      | some drain => exact stream?_eq _ _ _ _ _
    · rfl

theorem commit?_eq (d : Device) (direction : Direction) : d.commit? direction = some (d.commit direction) := by
  unfold commit? commit
  cases d.profile.dispatchers with
  | none => rfl
  | some pair =>
    dsimp only
    split
    · rfl
    · cases direction with
      | read => exact feed?_eq d _ _
      | write => rfl

theorem startIntegrated?_eq (d : Device) (dma : IntegratedDma) (value : UInt32) :
    d.startIntegrated? dma value = some (d.startIntegrated dma value) := by
  unfold startIntegrated? startIntegrated
  dsimp only
  split
  · rfl
  · split
    · rw [stream?_eq]
      dsimp only [Option.bind_eq_bind, Option.bind_some]
      split <;> rfl
    · dsimp only [Option.bind_eq_bind, Option.bind_some]
      split <;> rfl

/-- No write reaches for a byte that is not there or takes more than there is, whatever the device has been
told before. -/
theorem write?_eq (d : Device) (offset : Nat) (value : UInt32) : d.write? offset value = some (d.write offset value) := by
  unfold write?
  split
  · rename_i direction byte at_offset
    rw [write, at_offset]
    unfold setDescriptorByte? setDescriptorByte
    dsimp only
    split
    · exact commit?_eq _ direction
    · rfl
  · rename_i at_offset
    rw [write, at_offset]
    dsimp only
    cases d.profile.integrated with
    | none => rfl
    | some dma => exact startIntegrated?_eq _ dma value
  · rfl

end Device

end Systolic
