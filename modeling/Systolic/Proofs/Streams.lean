import Systolic.Proofs.Footprint

namespace Systolic

/-- What the streaming boards have in common: where each register is that a streaming call writes, and
what the words mean. A board may do without a row count. -/
structure Profile.Streams (p : Profile) (pair : Dispatchers) : Prop where
  dispatchers : p.dispatchers = some pair
  integrated : p.integrated = none
  mac : p.mac = none
  command : p.block.offset p.block.control = 0x30000
  status : p.block.offset p.block.status = 0x30004
  rows : ∀ word, p.block.rowCount = some word → p.block.offset word = 0x30018
  latch : ∃ word, p.block.weightLatch = some word ∧ p.block.offset word = 0x3001c
  loadWeights : p.block.loadWeights = 3
  execute : p.block.execute = 1
  read : pair.read = ⟨0x31000, 0x31040⟩
  write : pair.write = ⟨0x31020, 0x31050⟩
  go : pair.flags.go = 0x80000000
  readStream : pair.flags.readStream &&& pair.flags.go ≠ 0
  writeStream : pair.flags.writeStream &&& pair.flags.go ≠ 0

theorem Profile.streams_hpsMsgdma : hpsMsgdma.Streams (streamingEngines .hps) where
  dispatchers := rfl
  integrated := rfl
  mac := rfl
  command := rfl
  status := rfl
  rows := by rintro _ ⟨⟩; rfl
  latch := ⟨7, rfl, rfl⟩
  loadWeights := rfl
  execute := rfl
  read := rfl
  write := rfl
  go := rfl
  readStream := by decide
  writeStream := by decide

theorem Profile.streams_niosMsgdma : niosMsgdma.Streams (streamingEngines .standard) where
  dispatchers := rfl
  integrated := rfl
  mac := rfl
  command := rfl
  status := rfl
  rows := by rintro _ ⟨⟩
  latch := ⟨7, rfl, rfl⟩
  loadWeights := rfl
  execute := rfl
  read := rfl
  write := rfl
  go := rfl
  readStream := by decide
  writeStream := by decide

/-- The write of the row count, on the boards that have one. -/
def Profile.rowWrites (p : Profile) (count : Nat) : List Write :=
  if p.block.rowCount = none then [] else [(0x30018, UInt32.ofNat (8 * count))]

namespace Profile.Streams

variable {p : Profile} {pair : Dispatchers}

theorem unique (streams : p.Streams pair) {other : Dispatchers} (has : p.dispatchers = some other) : other = pair :=
  Option.some.inj (has.symm.trans streams.dispatchers)

theorem pushWrites_write (streams : p.Streams pair) (d : Descriptor) :
    (pair.engine .write).pushWrites d =
      [(0x31050, d.readAddress), (0x31054, d.writeAddress), (0x31058, d.length), (0x3105c, d.control)] := by
  simp [Dispatcher.pushWrites, Descriptor.words, Descriptor.controlSlot, Dispatchers.engine,
    Dispatchers.block, streams.write]

theorem resetWrites (streams : p.Streams pair) :
    Sequencer.resetWrites p =
      [(0x30000, 0), (0x30000, 0), (0x31004, Csr.reset), (0x31000, Csr.clearAll), (0x31004, 0),
        (0x31024, Csr.reset), (0x31020, Csr.clearAll), (0x31024, 0)] := by
  simp [Sequencer.resetWrites, streams.dispatchers, streams.command, Dispatcher.resetWrites,
    Dispatchers.engine, Dispatchers.block, streams.read, streams.write, EngineBlock.control,
    EngineBlock.status, Csr.controlOffset, Csr.statusOffset, ControlBlock.idle]

theorem loadWrites (streams : p.Streams pair) (weights : UInt32) (count : Nat) :
    Sequencer.loadWrites p pair weights count =
      (0x30000, 3) :: ((pair.engine .read).pushWrites
        (.readStream pair.flags weights (UInt32.ofNat (count * 64))) ++ [(0x3001c, 1), (0x3001c, 0)]) := by
  obtain ⟨word, latch, offset⟩ := streams.latch
  simp [Sequencer.loadWrites, streams.command, streams.loadWeights, latch, offset]

theorem feedWrites (streams : p.Streams pair) (inputs : UInt32) (count : Nat) :
    Sequencer.feedWrites p pair inputs count =
      p.rowWrites count ++ (0x30000, 1) :: (pair.engine .read).pushWrites
        (.readStream pair.flags inputs (UInt32.ofNat (count * 64))) := by
  unfold Sequencer.feedWrites rowWrites
  rw [streams.command, streams.execute]
  cases rows : p.block.rowCount with
  | none => rfl
  | some word =>
    simp [streams.rows word rows]

end Profile.Streams

/-- The boards with streaming engines are the two whose registers are known. -/
theorem Profile.streams_of_shipped {p : Profile} {pair : Dispatchers} (shipped : p ∈ all)
    (streams : p.dispatchers = some pair) : p.Streams pair := by
  simp only [all, List.mem_cons, List.not_mem_nil, or_false] at shipped
  rcases shipped with rfl | rfl | rfl
  · obtain rfl := Option.some.inj streams
    exact streams_hpsMsgdma
  · obtain rfl := Option.some.inj streams
    exact streams_niosMsgdma
  · nomatch streams

/-- Whether weights that are fed wait for the latch, where they can be fed at all. -/
def Profile.Latched (p : Profile) : Prop := p.dispatchers.isSome → p.block.weightLatch.isSome

instance (p : Profile) : Decidable p.Latched := inferInstanceAs (Decidable (_ → _))

/-- On the boards that are shipped no weights go into use without a pulse. -/
theorem Profile.latched_of_shipped : ∀ p ∈ all, p.Latched := by decide

end Systolic
