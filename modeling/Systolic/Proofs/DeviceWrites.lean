import Systolic.Device.Control
import Systolic.Proofs.Registers

namespace Systolic

variable {σ α : Type}

/-- The state that writes in a row bring a board to, if it refuses none of them. -/
def Board.writeAll (b : Board σ) (s : σ) (ws : List Write) : Option σ :=
  ws.foldlM (fun s w => b.write s w.1 w.2) s

theorem Board.writeAll_append (b : Board σ) (s : σ) (ws more : List Write) :
    b.writeAll s (ws ++ more) = (b.writeAll s ws).bind fun s' => b.writeAll s' more :=
  List.foldlM_append

/-- Whether a board answers every read, and no read changes it. -/
def Board.Answers (b : Board σ) : Prop := ∀ s offset, ∃ value, b.read s offset = some (value, s)

/-- A program comes to its end on a board that takes its writes. -/
theorem Program.Issues.ends {p : Program α} {ws : List Write} {post : α → Prop} (issues : p.Issues ws post)
    {b : Board σ} (answers : b.Answers) {s s' : σ} (taken : b.writeAll s ws = some s') (j : Journal) :
    ∃ a j', p.runOn b s j = ⟨some a, s', j'⟩ ∧ post a := by
  induction p generalizing ws s j with
  | done a =>
    obtain ⟨rfl, holds⟩ := issues
    obtain rfl : s = s' := Option.some.inj taken
    exact ⟨a, j, rfl, holds⟩
  | read offset next ih =>
    obtain ⟨value, answer⟩ := answers s offset
    obtain ⟨a, j', run, holds⟩ := ih value (issues value) taken (j.record (.read offset value))
    exact ⟨a, j', by rw [Program.runOn, answer]; exact run, holds⟩
  | write offset value next ih =>
    obtain ⟨rest, rfl, later⟩ := issues
    obtain ⟨middle, first, others⟩ := Option.bind_eq_some_iff.mp taken
    obtain ⟨a, j', run, holds⟩ := ih later others (j.record (.write offset value))
    exact ⟨a, j', by rw [Program.runOn, show b.write s offset value = some middle from first]; exact run, holds⟩
  | time next ih => exact ih _ (issues _) taken j
  | load | store | clear | halt => exact issues.elim

namespace Device

/-- The device after writes in a row. -/
def writeAll (d : Device) (ws : List Write) : Device := ws.foldl (fun d w => d.write w.1 w.2) d

@[simp] theorem writeAll_nil (d : Device) : d.writeAll [] = d := rfl

@[simp] theorem writeAll_cons (d : Device) (w : Write) (ws : List Write) :
    d.writeAll (w :: ws) = (d.write w.1 w.2).writeAll ws := rfl

theorem writeAll_append (d : Device) (ws more : List Write) :
    d.writeAll (ws ++ more) = (d.writeAll ws).writeAll more := List.foldl_append

theorem board_answers (timing : Timing) : (board timing).Answers := fun d offset => ⟨d.read offset, rfl⟩

theorem board_writeAll (timing : Timing) (d : Device) (ws : List Write) :
    (board timing).writeAll d ws = some (d.writeAll ws) := by
  induction ws generalizing d with
  | nil => rfl
  | cons w ws ih => exact ih (d.write w.1 w.2)

end Device

/-- A call whose writes are known makes all of them on a device, and the device is as they leave it. -/
theorem Sequencer.Issues.made {s s' : Sequencer} {x : SequencerM α} {ws : List Write} (issues : s.Issues x ws s')
    (timing : Timing) (d : Device) (j : Journal) :
    ∃ a j', (s.perform x).runOn (Device.board timing) d j = ⟨some (.ok a, s'), d.writeAll ws, j'⟩ ∧
      j'.writes = j.writes ++ ws := by
  obtain ⟨_, j', run, a, rfl⟩ :=
    Program.Issues.ends issues (Device.board_answers timing) (Device.board_writeAll timing d ws) j
  obtain ⟨made, journal, -, whole⟩ := Program.Issues.runOn issues (Device.board timing) d j
  rw [run] at journal whole
  obtain ⟨rfl, -⟩ := whole _ rfl
  exact ⟨a, j', run, journal⟩

namespace Device

variable {d : Device} {p : Profile} {pair : Dispatchers}

section Streams

variable (streams : p.Streams pair) (profile : d.profile = p)
include streams profile

theorem write_command (value : UInt32) : d.write 0x30000 value = { d with command := value } := by
  rw [write, profile, streams.register_command]

theorem write_rows (value : UInt32) : d.write 0x30018 value = d.keep 0x30018 value := by
  rw [write, profile, streams.register_rows]

theorem write_latch (value : UInt32) : d.write 0x3001c value = d.setLatch value := by
  rw [write, profile, streams.register_latch]

theorem write_status (direction : Direction) (value : UInt32) :
    d.write (pair.block direction).status value = d := by
  rw [write, profile, streams.register_status]

theorem write_control (direction : Direction) (value : UInt32) :
    d.write (pair.block direction).control value = d.controlEngine direction value := by
  rw [write, profile, streams.register_control]

theorem write_descriptor (direction : Direction) (byte : Fin 16) (value : UInt32) :
    d.write ((pair.block direction).descriptor + byte.val) value = d.setDescriptorByte direction byte value := by
  rw [write, profile, streams.register_descriptor]

end Streams

theorem engine_setEngine (d : Device) (direction : Direction) (e : EngineState) :
    (d.setEngine direction e).engine direction = e := by
  cases direction <;> rfl

theorem setEngine_setEngine (d : Device) (direction : Direction) (e f : EngineState) :
    (d.setEngine direction e).setEngine direction f = d.setEngine direction f := by
  cases direction <;> rfl

theorem setEngine_engine (d : Device) (direction : Direction) : d.setEngine direction (d.engine direction) = d := by
  cases direction <;> rfl

theorem profile_setEngine (d : Device) (direction : Direction) (e : EngineState) :
    (d.setEngine direction e).profile = d.profile := by
  cases direction <;> rfl

section Streams

variable (streams : p.Streams pair) (profile : d.profile = p)
include streams profile

/-- The words of a descriptor that come before its control word only wait for that. -/
theorem writeAll_words (direction : Direction) (readAddress writeAddress length : UInt32) :
    d.writeAll [((pair.block direction).descriptor, readAddress),
        ((pair.block direction).descriptor + 4, writeAddress), ((pair.block direction).descriptor + 8, length)] =
      d.setEngine direction ⟨(d.engine direction).control,
        ⟨readAddress, writeAddress, length, (d.engine direction).descriptor.control⟩⟩ := by
  have keep : ∀ (e : EngineState) (byte : Fin 16) (value : UInt32), byte.val ≠ Descriptor.controlSlot →
      (d.setEngine direction e).write ((pair.block direction).descriptor + byte.val) value =
        d.setEngine direction { e with descriptor := e.descriptor.setWord (Descriptor.wordOf byte) value } := by
    intro e byte value notLast
    rw [write_descriptor streams ((profile_setEngine d direction e).trans profile), setDescriptorByte, if_neg notLast,
      engine_setEngine, setEngine_setEngine]
  have first := keep (d.engine direction) 0 readAddress (by decide)
  rw [setEngine_engine] at first
  show ((d.write ((pair.block direction).descriptor + (0 : Fin 16).val) _).write
    ((pair.block direction).descriptor + (4 : Fin 16).val) _).write
    ((pair.block direction).descriptor + (8 : Fin 16).val) _ = _
  rw [first, keep _ 4 _ (by decide), keep _ 8 _ (by decide)]
  rfl

theorem write_lastWord (direction : Direction) (e : EngineState) (value : UInt32) :
    (d.setEngine direction e).write ((pair.block direction).descriptor + Descriptor.controlSlot) value =
      (d.setEngine direction { e with descriptor.control := value }).commit direction := by
  have handsOver : (12 : Fin 16).val = Descriptor.controlSlot := rfl
  rw [← handsOver, write_descriptor streams ((profile_setEngine d direction e).trans profile), setDescriptorByte,
    if_pos handsOver, engine_setEngine, setEngine_setEngine]
  rfl

/-- Once all of its words are written, a descriptor takes effect. -/
theorem writeAll_push (direction : Direction) (descriptor : Descriptor) :
    d.writeAll ((pair.engine direction).pushWrites descriptor) =
      (d.setEngine direction { d.engine direction with descriptor }).commit direction := by
  show (d.writeAll [_, _, _]).write ((pair.block direction).descriptor + Descriptor.controlSlot) _ = _
  exact (congrArg (fun d : Device => d.write _ _) (writeAll_words streams profile direction _ _ _)).trans
    (write_lastWord streams profile direction _ _)

theorem writeAll_engineReset (direction : Direction) :
    d.writeAll (pair.engine direction).resetWrites =
      { d with drain := if direction = Direction.write then none else d.drain }.setEngine direction ⟨0, .zero⟩ := by
  have resets : Csr.reset &&& Csr.reset ≠ 0 := by decide
  have parks : (0 : UInt32) &&& Csr.reset = 0 := by decide
  have dropped : ∃ control, d.write (pair.block direction).control Csr.reset =
      { d with drain := if direction = Direction.write then none else d.drain }.setEngine direction
        ⟨control, .zero⟩ :=
    ⟨_, by rw [write_control streams profile, controlEngine, if_neg resets]⟩
  obtain ⟨control, dropped⟩ := dropped
  have still : ∀ e, ({ d with drain := if direction = Direction.write then none else d.drain }.setEngine
      direction e).profile = p := fun e => (profile_setEngine _ direction e).trans profile
  show ((d.write (pair.block direction).control Csr.reset).write (pair.block direction).status _).write
    (pair.block direction).control 0 = _
  rw [dropped, write_status streams (still _), write_control streams (still _), controlEngine, if_pos parks,
    engine_setEngine, setEngine_setEngine]

/-- A session reset parks the array and empties both engines, whatever they were at and even if one
never comes out of its reset. -/
theorem writeAll_reset :
    d.writeAll (Sequencer.resetWrites p) =
      { d with command := 0, reader := ⟨0, .zero⟩, writer := ⟨0, .zero⟩, drain := none } := by
  have parked : (d.write 0x30000 0).write 0x30000 0 = { d with command := 0 } := by
    rw [write_command streams profile, write_command streams (by exact profile)]
  rw [Sequencer.resetWrites, streams.dispatchers, streams.command]
  dsimp only
  rw [List.cons_append, List.cons_append, List.nil_append, writeAll_cons, writeAll_cons, writeAll_append]
  rw [show ControlBlock.idle = 0 from rfl, parked, writeAll_engineReset streams (by exact profile) .read,
    writeAll_engineReset streams (by exact profile) .write]
  rfl

theorem commit_write (e : EngineState) (handsOver : e.descriptor.control &&& pair.flags.go ≠ 0) :
    (d.setEngine .write e).commit .write =
      { d with writer := e, drain := some ⟨e.descriptor.writeAddress, e.descriptor.length⟩ } := by
  have has : (d.setEngine .write e).profile.dispatchers = some pair := by
    rw [profile_setEngine, profile, streams.dispatchers]
  rw [commit, engine_setEngine, has]
  dsimp only
  rw [if_neg handsOver]
  rfl

theorem commit_read (e : EngineState) (handsOver : e.descriptor.control &&& pair.flags.go ≠ 0) :
    (d.setEngine .read e).commit .read =
      { d with reader := e }.feed e.descriptor.readAddress e.descriptor.length.toNat := by
  have has : (d.setEngine .read e).profile.dispatchers = some pair := by
    rw [profile_setEngine, profile, streams.dispatchers]
  rw [commit, engine_setEngine, has]
  dsimp only
  rw [if_neg handsOver]
  rfl

/-- A drain is armed whatever was armed before it. -/
theorem writeAll_arm (outputs : UInt32) (count : Nat) :
    ∃ writer, d.writeAll (Sequencer.armWrites pair outputs count) =
      { d with writer, drain := some ⟨outputs, UInt32.ofNat (count * 256)⟩ } := by
  have pushed := writeAll_push streams profile .write (.writeStream pair.flags outputs (UInt32.ofNat (count * 256)))
  exact ⟨_, pushed.trans (commit_write streams profile _ streams.writeStream)⟩

/-- Handing a descriptor to the engine that reads feeds what it names. -/
theorem writeAll_pushRead (source length : UInt32) :
    ∃ reader, d.writeAll ((pair.engine .read).pushWrites (.readStream pair.flags source length)) =
      { d with reader }.feed source length.toNat := by
  have pushed := writeAll_push streams profile .read (.readStream pair.flags source length)
  exact ⟨_, pushed.trans (commit_read streams profile _ streams.readStream)⟩

end Streams

theorem feed_weights (loads : d.command = d.profile.block.loadWeights) (source : UInt32) (len : Nat) :
    d.feed source len = d.takeWeights source len := by
  rw [feed, if_pos loads]

theorem feed_inputs {drain : Drain} (notLoad : d.command ≠ d.profile.block.loadWeights)
    (executes : d.command = d.profile.block.execute) (armed : d.drain = some drain) (source : UInt32) (len : Nat) :
    d.feed source len = { d with drain := none }.stream source len drain.sink drain.length.toNat := by
  rw [feed, if_neg notLoad, if_pos executes, armed]

/-- On a board with a latch new weights change nothing but the shadow. -/
theorem takeWeights_eq (latched : d.profile.block.weightLatch.isSome) (source : UInt32) (len : Nat) :
    ∃ shadow, d.takeWeights source len = { d with shadow } := by
  unfold takeWeights
  cases d.offset? source len with
  | none => exact ⟨d.shadow, rfl⟩
  | some s =>
    refine ⟨if len < 64 then d.shadow else Wire.ofWeights (d.memory.block (s + 64 * (len / 64 - 1)) 64), ?_⟩
    dsimp only
    rw [if_pos latched]

/-- Of the matrices that are taken in the last one stays, if all of them lie in shared memory. -/
theorem shadow_takeWeights (d : Device) (source : UInt32) {count : Nat} (positive : 0 < count) :
    (d.takeWeights source (count * 64)).shadow =
      match d.offset? source (count * 64) with
      | some s => Wire.ofWeights (d.memory.block (s + 64 * (count - 1)) 64)
      | none => d.shadow := by
  have whole : ¬ count * 64 < 64 := by omega
  have index : count * 64 / 64 - 1 = count - 1 := by omega
  unfold takeWeights
  cases d.offset? source (count * 64) with
  | none => rfl
  | some s =>
    dsimp only
    rw [if_neg whole, index]

theorem size_multiply (weights : Operand) (source len sink rows : Nat) (m : Memory) :
    (multiply weights source len sink rows m).size = m.size := by
  have fold : ∀ (blocks : List Nat) (m : Memory),
      (blocks.foldl (multiplyBlock weights source len sink rows) m).size = m.size := by
    intro blocks
    induction blocks with
    | nil => intro m; rfl
    | cons i blocks ih =>
      intro m
      rw [List.foldl_cons, ih, multiplyBlock, Memory.size_store]
  exact fold _ m

/-- A stream changes nothing but the contents of memory and the count of rows. -/
theorem stream_eq (d : Device) (source : UInt32) (len : Nat) (sink : UInt32) (room : Nat) :
    ∃ memory rowsStreamed, d.stream source len sink room = { d with memory, rowsStreamed } ∧
      memory.size = d.memory.size := by
  unfold stream
  dsimp only
  split
  · exact ⟨d.memory, d.rowsStreamed, rfl, rfl⟩
  · cases d.offset? source len with
    | none => exact ⟨d.memory, d.rowsStreamed, rfl, rfl⟩
    | some s =>
      cases d.offset? sink _ with
      | none => exact ⟨d.memory, d.rowsStreamed, rfl, rfl⟩
      | some t => exact ⟨_, _, rfl, size_multiply ..⟩

theorem or_and_not (x mask : UInt32) : (x ||| mask) &&& ~~~mask = x &&& ~~~mask := by
  apply UInt32.toBitVec_inj.mp
  ext i inside
  simp
  grind

/-- What no write changes of a device: which board it is, its faults, and of its status all but the bits by which
an engine inside the control block says that it is done. -/
structure SameBoard (d d' : Device) : Prop where
  profile : d'.profile = d.profile
  faults : d'.faults = d.faults
  status : d'.integratedStatus &&& ~~~IntegratedDma.doneMask = d.integratedStatus &&& ~~~IntegratedDma.doneMask

theorem SameBoard.refl (d : Device) : SameBoard d d := ⟨rfl, rfl, rfl⟩

theorem SameBoard.trans {d d' d'' : Device} (first : SameBoard d d') (next : SameBoard d' d'') : SameBoard d d'' :=
  ⟨next.profile.trans first.profile, next.faults.trans first.faults, next.status.trans first.status⟩

/-- What no write changes of a device unless it is to the latch: besides the board, the level of the latch, how often it
has risen and, as long as weights that are fed wait for it, which weights are in use. -/
structure SameLatch (d d' : Device) : Prop extends SameBoard d d' where
  latch : d'.latch = d.latch
  pulses : d'.latchPulses = d.latchPulses
  active : d.profile.Latched → d'.active = d.active

theorem SameLatch.refl (d : Device) : SameLatch d d := ⟨.refl d, rfl, rfl, fun _ => rfl⟩

theorem SameLatch.trans {d d' d'' : Device} (first : SameLatch d d') (next : SameLatch d' d'') : SameLatch d d'' where
  toSameBoard := first.toSameBoard.trans next.toSameBoard
  latch := next.latch.trans first.latch
  pulses := next.pulses.trans first.pulses
  active latched := (next.active (by rwa [first.profile])).trans (first.active latched)

theorem sameLatch_setEngine (d : Device) (direction : Direction) (e : EngineState) :
    SameLatch d (d.setEngine direction e) := by
  cases direction <;> exact ⟨⟨rfl, rfl, rfl⟩, rfl, rfl, fun _ => rfl⟩

theorem sameLatch_stream (d : Device) (source : UInt32) (len : Nat) (sink : UInt32) (room : Nat) :
    SameLatch d (d.stream source len sink room) := by
  obtain ⟨memory, rowsStreamed, same, -⟩ := d.stream_eq source len sink room
  rw [same]
  exact ⟨⟨rfl, rfl, rfl⟩, rfl, rfl, fun _ => rfl⟩

theorem sameLatch_takeWeights (has : d.profile.dispatchers = some pair) (source : UInt32) (len : Nat) :
    SameLatch d (d.takeWeights source len) := by
  unfold takeWeights
  split
  · exact .refl d
  · refine ⟨⟨rfl, rfl, rfl⟩, rfl, rfl, ?_⟩
    intro latched
    exact if_pos (latched (by rw [has]; rfl))

theorem sameLatch_feed (has : d.profile.dispatchers = some pair) (source : UInt32) (len : Nat) :
    SameLatch d (d.feed source len) := by
  unfold feed
  split
  · exact sameLatch_takeWeights has source len
  · split
    · split
      · have taken : ∀ drain, SameLatch d { d with drain } := fun _ => ⟨⟨rfl, rfl, rfl⟩, rfl, rfl, fun _ => rfl⟩
        exact (taken none).trans (sameLatch_stream ..)
      · exact .refl d
    · exact .refl d

theorem sameLatch_commit (d : Device) (direction : Direction) : SameLatch d (d.commit direction) := by
  unfold commit
  dsimp only
  split
  · exact .refl d
  · rename_i pair has
    split
    · exact .refl d
    · cases direction with
      | read => exact sameLatch_feed has _ _
      | write => exact ⟨⟨rfl, rfl, rfl⟩, rfl, rfl, fun _ => rfl⟩

theorem sameLatch_startIntegrated (d : Device) (dma : IntegratedDma) (value : UInt32) :
    SameLatch d (d.startIntegrated dma value) := by
  have started : SameLatch d { d with integratedStatus := d.integratedStatus &&& ~~~IntegratedDma.doneMask } :=
    ⟨⟨rfl, rfl, by rw [UInt32.and_assoc, UInt32.and_self]⟩, rfl, rfl, fun _ => rfl⟩
  have finished : ∀ d' : Device, SameLatch d' { d' with
      integratedStatus := d'.integratedStatus ||| IntegratedDma.doneMask } :=
    fun d' => ⟨⟨rfl, rfl, or_and_not d'.integratedStatus _⟩, rfl, rfl, fun _ => rfl⟩
  unfold startIntegrated
  dsimp only
  split
  · exact started
  · split
    · have streamed := started.trans (sameLatch_stream _ (d.word dma.readAddress) (4 * (d.word dma.readLength).toNat)
        (d.word dma.writeAddress) (4 * (value &&& IntegratedDma.lengthMask).toNat))
      split
      · exact streamed
      · exact streamed.trans (finished _)
    · split
      · exact started
      · exact started.trans (finished _)

theorem sameLatch_write (d : Device) {offset : Nat} (other : d.profile.register offset ≠ .latch) (value : UInt32) :
    SameLatch d (d.write offset value) := by
  unfold write
  split
  · exact .refl d
  · rename_i direction _
    unfold controlEngine
    dsimp only
    split
    · exact sameLatch_setEngine ..
    · cases direction <;> exact ⟨⟨rfl, rfl, rfl⟩, rfl, rfl, fun _ => rfl⟩
  · unfold setDescriptorByte
    dsimp only
    split
    · exact (sameLatch_setEngine ..).trans (sameLatch_commit ..)
    · exact sameLatch_setEngine ..
  · exact ⟨⟨rfl, rfl, rfl⟩, rfl, rfl, fun _ => rfl⟩
  · exact absurd ‹_› other
  · have kept : SameLatch d (d.keep offset value) := ⟨⟨rfl, rfl, rfl⟩, rfl, rfl, fun _ => rfl⟩
    split
    · exact kept.trans (sameLatch_startIntegrated ..)
    · exact kept
  · unfold strobe
    dsimp only
    repeat' split
    all_goals exact ⟨⟨rfl, rfl, rfl⟩, rfl, rfl, fun _ => rfl⟩
  all_goals exact ⟨⟨rfl, rfl, rfl⟩, rfl, rfl, fun _ => rfl⟩

theorem sameBoard_write (d : Device) (offset : Nat) (value : UInt32) : SameBoard d (d.write offset value) := by
  by_cases latches : d.profile.register offset = .latch
  · rw [write, latches]
    dsimp only
    unfold setLatch
    split <;> exact ⟨rfl, rfl, rfl⟩
  · exact (d.sameLatch_write latches value).toSameBoard

theorem sameBoard_writeAll (d : Device) (ws : List Write) : SameBoard d (d.writeAll ws) := by
  induction ws generalizing d with
  | nil => exact .refl d
  | cons w ws ih => exact (d.sameBoard_write w.1 w.2).trans (ih (d.write w.1 w.2))

/-- No write makes another board of a device. -/
theorem profile_write (d : Device) (offset : Nat) (value : UInt32) : (d.write offset value).profile = d.profile :=
  (d.sameBoard_write offset value).profile

theorem profile_writeAll (d : Device) (ws : List Write) : (d.writeAll ws).profile = d.profile :=
  (d.sameBoard_writeAll ws).profile

section Streams

variable (streams : p.Streams pair) (profile : d.profile = p)
include streams profile

/-- A pulse leaves the latch low. It puts the shadow in use if the latch was low before it too; else nothing rises. -/
theorem writeAll_pulse :
    d.writeAll [(0x3001c, 1), (0x3001c, 0)] =
      { d with
        latch := 0, active := if d.latch = 0 then d.shadow else d.active
        latchPulses := if d.latch = 0 then d.latchPulses + 1 else d.latchPulses } := by
  have kept : (d.write 0x3001c 1).profile = p := (d.profile_write _ _).trans profile
  have falls : ∀ d' : Device, d'.setLatch 0 = { d' with latch := 0 } := fun d' => if_neg (by simp)
  rw [writeAll_cons, writeAll_cons, writeAll_nil, write_latch streams kept, write_latch streams profile, falls]
  by_cases low : d.latch = 0
  · have rises : (1 : UInt32) ≠ 0 ∧ d.latch = 0 := ⟨by decide, low⟩
    rw [setLatch, if_pos rises, if_pos low, if_pos low]
  · have still : ¬ ((1 : UInt32) ≠ 0 ∧ d.latch = 0) := fun rises => low rises.2
    rw [setLatch, if_neg still, if_neg low, if_neg low]

/-- What a load writes before the pulse brings weights to the shadow. -/
theorem writeAll_bring (weights : UInt32) {count : Nat} (fits : count * 64 < UInt32.size) :
    ∃ reader shadow, ({ d with command := 3, reader } : Device).takeWeights weights (count * 64) =
        { d with command := 3, reader, shadow } ∧
      d.writeAll ((0x30000, 3) :: (pair.engine .read).pushWrites
          (.readStream pair.flags weights (UInt32.ofNat (count * 64)))) =
        { d with command := 3, reader, shadow } := by
  obtain ⟨reader, fed⟩ := writeAll_pushRead (d := { d with command := 3 }) streams profile weights
    (UInt32.ofNat (count * 64))
  have latched : d.profile.block.weightLatch.isSome := by
    obtain ⟨word, latch, -⟩ := streams.latch
    rw [profile, latch]
    rfl
  obtain ⟨shadow, taken⟩ := takeWeights_eq (d := { d with command := 3, reader }) latched weights (count * 64)
  refine ⟨reader, shadow, taken, ?_⟩
  have loads : (3 : UInt32) = d.profile.block.loadWeights := by rw [profile, streams.loadWeights]
  rw [feed_weights loads, UInt32.toNat_ofNat_of_lt' fits] at fed
  rw [writeAll_cons, write_command streams profile]
  exact fed.trans taken

theorem writeAll_load (low : d.latch = 0) (weights : UInt32) {count : Nat} (fits : count * 64 < UInt32.size) :
    ∃ reader shadow, ({ d with command := 3, reader } : Device).takeWeights weights (count * 64) =
        { d with command := 3, reader, shadow } ∧
      d.writeAll (Sequencer.loadWrites p pair weights count) =
        { d with command := 3, reader, shadow, active := shadow, latchPulses := d.latchPulses + 1 } := by
  obtain ⟨reader, shadow, taken, brought⟩ := writeAll_bring streams profile weights fits
  have pulsed := writeAll_pulse (d := { d with command := 3, reader, shadow }) streams profile
  refine ⟨reader, shadow, taken, ?_⟩
  rw [streams.loadWrites, ← List.cons_append, writeAll_append, brought, pulsed, if_pos low, if_pos low, ← low]

/-- The row count is what a feed is told to pass, on the boards that have one. -/
theorem writeAll_rows {count : Nat} (fits : 8 * count < UInt32.size) :
    ∃ registers, d.writeAll (p.rowWrites count) = { d with registers } ∧
      ({ d with registers } : Device).rowLimit = p.block.rowCount.map fun _ => 8 * count := by
  have limit : ∀ registers, ({ d with registers } : Device).rowLimit =
      p.block.rowCount.map fun index => (registers.get (p.block.offset index)).toNat := by
    intro registers
    rw [← profile]
    rfl
  unfold Profile.rowWrites
  cases counted : p.block.rowCount with
  | none => exact ⟨d.registers, rfl, by rw [limit, counted]; rfl⟩
  | some word =>
    refine ⟨d.registers.set 0x30018 (UInt32.ofNat (8 * count)), write_rows streams profile _, ?_⟩
    rw [limit, counted, Option.map_some, Option.map_some, streams.rows word counted, Sparse.get_set, if_pos rfl,
      UInt32.toNat_ofNat_of_lt' fits]

/-- A feed streams into the drain, which is gone after it. -/
theorem writeAll_feed {drain : Drain} (armed : d.drain = some drain) (inputs : UInt32) {count : Nat}
    (fits : count * 64 < UInt32.size) :
    ∃ reader registers,
      ({ d with registers } : Device).rowLimit = p.block.rowCount.map (fun _ => 8 * count) ∧
      d.writeAll (Sequencer.feedWrites p pair inputs count) =
        { d with registers, command := 1, reader, drain := none }.stream inputs (count * 64) drain.sink
          drain.length.toNat := by
  have counts : 8 * count < UInt32.size := by omega
  obtain ⟨registers, counted, limit⟩ := writeAll_rows (d := d) streams profile counts
  obtain ⟨reader, fed⟩ := writeAll_pushRead (d := { d with registers, command := 1 }) streams profile inputs
    (UInt32.ofNat (count * 64))
  refine ⟨reader, registers, limit, ?_⟩
  have notLoad : (1 : UInt32) ≠ d.profile.block.loadWeights := by
    rw [profile, streams.loadWeights]
    decide
  have executes : (1 : UInt32) = d.profile.block.execute := by rw [profile, streams.execute]
  have streamed := feed_inputs (d := { d with registers, command := 1, reader }) notLoad executes armed inputs
    (count * 64)
  rw [UInt32.toNat_ofNat_of_lt' fits] at fed
  rw [streams.feedWrites, writeAll_append, counted, writeAll_cons, ← streamed, ← fed]
  exact congrArg (fun d : Device => d.writeAll _) (write_command (d := { d with registers }) streams profile 1)

end Streams

end Device

end Systolic
