import Systolic.Proofs.Codec
import Systolic.Proofs.Coupling
import Systolic.Proofs.Ensures
import Systolic.Proofs.Multiply
import Systolic.Proofs.Staging

namespace Systolic

open Sequencer Program

/-- A sequencer and a device with nothing going on and the latch low. -/
structure Ready (p : Profile) (s : Sequencer) (d : Device) : Prop where
  sequencer : s.profile = p
  device : d.profile = p
  idle : s.activity = .idle
  low : d.latch = 0

namespace Sequencer

variable {p : Profile} {pair : Dispatchers} {s : Sequencer} {d : Device}

theorem ensures_reset (streams : p.Streams pair) (sequencer : s.profile = p) (device : d.profile = p)
    (low : d.latch = 0) :
    s.Ensures d reset fun _ s' d' => Ready p s' d' ∧ d'.memory = d.memory ∧ d'.rowsStreamed = d.rowsStreamed := by
  refine ((issues_reset s).ensures d).mono ?_
  rintro _ _ _ ⟨rfl, rfl⟩
  rw [sequencer, Device.writeAll_reset streams device]
  exact ⟨⟨rfl, device, rfl, low⟩, rfl, rfl⟩

/-- Of the weights loaded the last ones come into use. -/
theorem ensures_loadWeights (streams : p.Streams pair) (ready : Ready p s d) {weights : UInt32} {count w : Nat}
    (positive : 0 < count) (fits : count * 64 < UInt32.size) (source : d.offset? weights (count * 64) = some w) :
    s.Ensures d (loadWeights weights count) fun _ s' d' => Ready p s' d' ∧ d'.memory = d.memory ∧
      d'.rowsStreamed = d.rowsStreamed ∧
      d'.active = Wire.ofWeights (d.memory.block (w + 64 * (count - 1)) 64) := by
  have has := has_dispatchers streams ready.sequencer
  obtain ⟨reader, shadow, taken, loaded⟩ := Device.writeAll_load streams ready.device ready.low weights fits
  have found : ({ d with command := 3, reader } : Device).offset? weights (count * 64) = some w := source
  have last : shadow = Wire.ofWeights (d.memory.block (w + 64 * (count - 1)) 64) := by
    have shadows := Device.shadow_takeWeights { d with command := 3, reader } weights positive
    rw [taken, found] at shadows
    exact shadows
  refine ((issues_loadWeights weights ready.idle has positive fits).ensures d).mono ?_
  rintro _ _ _ ⟨rfl, rfl⟩
  rw [ready.sequencer, loaded]
  exact ⟨⟨rfl, ready.device, ready.idle, ready.low⟩, rfl, rfl, last⟩

/-- What the writes of an execution leave behind: all of the inputs multiplied, and the drain used up. -/
theorem writeAll_execute (streams : p.Streams pair) (device : d.profile = p) {inputs outputs : UInt32}
    {count i o : Nat} (positive : 0 < count) (fits : count * 256 < UInt32.size)
    (source : d.offset? inputs (count * 64) = some i) (sink : d.offset? outputs (count * 256) = some o) :
    ∃ writer registers reader, d.writeAll (armWrites pair outputs count ++ feedWrites p pair inputs count) =
      { d with
        writer, registers, reader
        command := 1
        drain := none
        memory := Device.multiply d.active i (count * 64) o (8 * count) d.memory
        rowsStreamed := d.rowsStreamed + 8 * count } := by
  have smaller : count * 64 < UInt32.size := by omega
  obtain ⟨writer, armed⟩ := Device.writeAll_arm streams device outputs count
  let drain : Drain := ⟨outputs, UInt32.ofNat (count * 256)⟩
  obtain ⟨reader, registers, limit, fed⟩ := Device.writeAll_feed (d := { d with writer, drain := some drain })
    streams device rfl inputs smaller
  have counts : ∀ r,
      ({ d with writer, registers, command := 1, reader, drain := none } : Device).rowLimit = some r →
        r = 8 * count := by
    intro r counted
    obtain ⟨_, _, same⟩ := Option.map_eq_some_iff.mp (limit.symm.trans counted)
    exact same.symm
  have streamed := Device.stream_whole (d := { d with writer, registers, command := 1, reader, drain := none })
    positive counts source sink
  refine ⟨writer, registers, reader, ?_⟩
  rw [Device.writeAll_append, armed, fed, UInt32.toNat_ofNat_of_lt' fits, streamed]

/-- An execution multiplies all of its inputs by the weights in use. -/
theorem ensures_execute (streams : p.Streams pair) (ready : Ready p s d) {inputs outputs : UInt32} {count i o : Nat}
    (positive : 0 < count) (fits : count * 256 < UInt32.size) (source : d.offset? inputs (count * 64) = some i)
    (sink : d.offset? outputs (count * 256) = some o) :
    s.Ensures d (execute inputs outputs count) fun _ s' d' => s'.profile = p ∧ s'.activity = .executing count ∧
      d'.profile = p ∧ d'.latch = 0 ∧ d'.active = d.active ∧
      d'.memory = Device.multiply d.active i (count * 64) o (8 * count) d.memory ∧
      d'.rowsStreamed = d.rowsStreamed + 8 * count := by
  have has := has_dispatchers streams ready.sequencer
  obtain ⟨writer, registers, reader, executed⟩ := writeAll_execute streams ready.device positive fits source sink
  refine ((issues_execute inputs outputs ready.idle has positive fits).ensures d).mono ?_
  rintro _ _ _ ⟨rfl, rfl⟩
  rw [ready.sequencer, executed]
  exact ⟨rfl, rfl, ready.device, ready.low, rfl, rfl, rfl⟩

theorem ensures_finish (streams : p.Streams pair) (sequencer : s.profile = p) {count : Nat}
    (executing : s.activity = .executing count) :
    s.Ensures d finish fun _ s' d' => s'.profile = p ∧ s'.activity = .idle ∧ d' = d := by
  have has := has_dispatchers streams sequencer
  refine ((issues_finish executing has).ensures d).mono ?_
  rintro _ _ _ ⟨rfl, rfl⟩
  exact ⟨sequencer, rfl, rfl⟩

end Sequencer

/-- A whole session: stages the operands, starts the board anew, loads the weights, runs the inputs
through and takes the results. -/
def Sequencer.session (size : Nat) (plan : Placement) (ws xs : List Operand) : SequencerM (List Output) := do
  Staging.writeWeights size plan.weights ws
  Staging.writeInputs size plan.inputs xs
  let _ ← reset
  let _ ← loadWeights plan.weights.bus ws.length
  execute plan.inputs.bus plan.outputs.bus xs.length
  let _ ← finish
  Staging.readOutputs size plan.outputs xs.length

/-- The bytes of a region. -/
def Region.Covers (r : Region) (i : Nat) : Prop := r.offset ≤ i ∧ i < r.stop

/-- Shared memory once the operands are staged. -/
def Placement.staged (plan : Placement) (ws xs : List Operand) (m : Memory) : Memory :=
  (m.store plan.weights.offset (Wire.weightBatch ws)).store plan.inputs.offset (Wire.inputBatch xs)

section Staged

variable {plan : Placement} {layout : Layout} {size : Nat} {busBase : UInt32} {ws xs : List Operand} {m : Memory}

theorem Placement.Fits.block_weights (fits : plan.Fits layout size busBase ws.length xs.length) {k : Nat}
    (bound : k < ws.length) :
    (plan.staged ws xs m).block (plan.weights.offset + 64 * k) 64 = Wire.weights ws[k] := by
  have apart := fits.weights_inputs
  have len := fits.weights.len
  have room := fits.inputs.len
  unfold Region.stop at apart
  have untouched : (plan.staged ws xs m).block (plan.weights.offset + 64 * k) 64 =
      (m.store plan.weights.offset (Wire.weightBatch ws)).block (plan.weights.offset + 64 * k) 64 := by
    apply Memory.block_congr
    intro i low high
    apply Memory.byte_store_outside
    rw [Wire.length_inputBatch]
    omega
  exact untouched.trans (Memory.block_store m plan.weights.offset Wire.weights ws bound)

theorem Placement.block_inputs {k : Nat} (bound : k < xs.length) :
    (plan.staged ws xs m).block (plan.inputs.offset + 64 * k) 64 = Wire.inputs xs[k] :=
  Memory.block_store _ plan.inputs.offset Wire.inputs xs bound

theorem Placement.Fits.byte_staged (fits : plan.Fits layout size busBase ws.length xs.length) {i : Nat}
    (notWeights : ¬ plan.weights.Covers i) (notInputs : ¬ plan.inputs.Covers i) :
    (plan.staged ws xs m).byte i = m.byte i := by
  have len := fits.weights.len
  have room := fits.inputs.len
  unfold Region.Covers Region.stop at notWeights notInputs
  have inputs : i < plan.inputs.offset ∨ plan.inputs.offset + (Wire.inputBatch xs).length ≤ i := by
    rw [Wire.length_inputBatch]
    omega
  have weights : i < plan.weights.offset ∨ plan.weights.offset + (Wire.weightBatch ws).length ≤ i := by
    rw [Wire.length_weightBatch]
    omega
  exact (Memory.byte_store_outside _ inputs).trans (Memory.byte_store_outside _ weights)

/-- The outputs are apart from the inputs, and so the staged inputs are what is multiplied. -/
theorem Placement.Fits.multiplied (fits : plan.Fits layout size busBase ws.length xs.length) (w : Operand) :
    Device.Multiplied w plan.inputs.offset (xs.length * 64) plan.outputs.offset (8 * xs.length) (plan.staged ws xs m)
      ((8 * xs.length + 7) / 8) (Device.multiply w plan.inputs.offset (xs.length * 64) plan.outputs.offset
        (8 * xs.length) (plan.staged ws xs m)) := by
  have len := fits.inputs.len
  have room := fits.outputs.len
  have apart := fits.inputs_outputs
  unfold Region.stop at apart
  exact Device.multiplied (by omega)

/-- The results of staged inputs are their products, each in its place. -/
theorem Placement.Fits.outputs_multiply (fits : plan.Fits layout size busBase ws.length xs.length) (w : Operand) :
    Wire.ofOutputBatch ((Device.multiply w plan.inputs.offset (xs.length * 64) plan.outputs.offset (8 * xs.length)
      (plan.staged ws xs m)).load plan.outputs.offset (256 * xs.length)) = xs.map (· * w) := by
  have done := fits.multiplied (m := m) w
  rw [Wire.ofOutputBatch, Memory.blocks_load _ _ (by omega), List.map_map]
  apply List.ext_getElem
  · simp
  intro k _ bound
  rw [List.length_map] at bound
  have whole : 64 * k + 64 ≤ xs.length * 64 := by omega
  have block : (Device.multiply w plan.inputs.offset (xs.length * 64) plan.outputs.offset (8 * xs.length)
      (plan.staged ws xs m)).block (plan.outputs.offset + 256 * k) 256 = Wire.outputs (xs[k] * w) := by
    apply Vector.ext
    intro c inside
    simp only [Memory.block, Vector.getElem_ofFn]
    rw [done.inside k ⟨c, inside⟩ (by omega) (by dsimp only; omega), Device.results, Device.inputBlock_whole whole,
      Placement.block_inputs bound, Wire.ofInputs_inputs]
    rfl
  rw [List.getElem_map, List.getElem_map, List.getElem_range, Function.comp_apply, block, Wire.ofOutputs_outputs]

/-- A session's multiplication leaves alone what is in none of the regions. -/
theorem Placement.Fits.byte_multiply (fits : plan.Fits layout size busBase ws.length xs.length) (w : Operand) {i : Nat}
    (notWeights : ¬ plan.weights.Covers i) (notInputs : ¬ plan.inputs.Covers i)
    (notOutputs : ¬ plan.outputs.Covers i) :
    (Device.multiply w plan.inputs.offset (xs.length * 64) plan.outputs.offset (8 * xs.length)
      (plan.staged ws xs m)).byte i = m.byte i := by
  have room := fits.outputs.len
  unfold Region.Covers Region.stop at notOutputs
  exact ((fits.multiplied w).outside i (by omega)).trans (fits.byte_staged notWeights notInputs)

theorem Placement.size_staged : (plan.staged ws xs m).size = m.size := by
  rw [staged, Memory.size_store, Memory.size_store]

end Staged

/-- A device finds a region by its bus address. -/
theorem Region.Fits.offset? {r : Region} {p : Profile} {size offset count each len : Nat} {d : Device}
    (fits : r.Fits size p.busBase offset count each) (device : d.profile = p) (memory : d.memory.size = size)
    (within : len ≤ r.len) : d.offset? r.bus len = some r.offset := by
  have bus := fits.bus
  have inside := fits.inside
  have place : r.bus.toNat - d.profile.busBase.toNat = r.offset := by
    rw [device]
    omega
  have reaches : d.Reaches r.bus len := by
    unfold Device.Reaches
    rw [place, device, memory]
    omega
  rw [Device.offset?_of_reaches reaches, place]

theorem Sequencer.ensures_writeWeights (s : Sequencer) (d : Device) {size offset : Nat} {busBase : UInt32} {r : Region}
    {ms : List Operand} (fits : r.Fits size busBase offset ms.length 64) :
    s.Ensures d (liftM (Staging.writeWeights size r ms)) fun _ s' d' =>
      s' = s ∧ d' = { d with memory := d.memory.store r.offset (Wire.weightBatch ms) } :=
  fun timing => achieves_writeWeights (Device.board timing) s d fits

theorem Sequencer.ensures_writeInputs (s : Sequencer) (d : Device) {size offset : Nat} {busBase : UInt32} {r : Region}
    {ms : List Operand} (fits : r.Fits size busBase offset ms.length 64) :
    s.Ensures d (liftM (Staging.writeInputs size r ms)) fun _ s' d' =>
      s' = s ∧ d' = { d with memory := d.memory.store r.offset (Wire.inputBatch ms) } :=
  fun timing => achieves_writeInputs (Device.board timing) s d fits

theorem Sequencer.ensures_readOutputs (s : Sequencer) {d : Device} {size : Nat} {r : Region} {count : Nat}
    (room : 256 * count ≤ r.len) (inside : r.offset + 256 * count ≤ size) :
    s.Ensures d (liftM (Staging.readOutputs size r count)) fun results s' d' =>
      results = Wire.ofOutputBatch (d.memory.load r.offset (256 * count)) ∧ s' = s ∧ d' = d :=
  fun timing => achieves_readOutputs (Device.board timing) s d room inside

/-- Weights that are loaded from where they were staged come into use, the last ones of them. -/
theorem Sequencer.ensures_loadStaged {p : Profile} {pair : Dispatchers} {size : Nat} {s : Sequencer} {d : Device}
    {layout : Layout} {plan : Placement} {ws xs : List Operand} {m : Memory} (streams : p.Streams pair)
    (ready : Ready p s d) (memory : d.memory.size = size)
    (fits : plan.Fits layout size p.busBase ws.length xs.length) (weights : ws ≠ [])
    (staged : d.memory = plan.staged ws xs m) :
    s.Ensures d (loadWeights plan.weights.bus ws.length) fun _ s' d' => Ready p s' d' ∧ d'.memory = d.memory ∧
      d'.rowsStreamed = d.rowsStreamed ∧ d'.active = ws.getLast weights := by
  have someWeights := List.length_pos_iff.mpr weights
  have len := fits.weights.len
  have addressable := fits.weights.addressable
  refine (ensures_loadWeights streams ready someWeights (by omega)
    (fits.weights.offset? ready.device memory (by omega))).mono ?_
  rintro _ s' d' ⟨ready', kept, rows, active⟩
  have block := fits.block_weights (m := m) (show ws.length - 1 < ws.length by omega)
  refine ⟨ready', kept, rows, ?_⟩
  rw [active, staged]
  refine (congrArg Wire.ofWeights block).trans ?_
  rw [Wire.ofWeights_weights, List.getLast_eq_getElem]

/-- A session on a plan that fits, from any state with the latch low. -/
theorem Sequencer.ensures_session {p : Profile} {pair : Dispatchers} {size : Nat} {s : Sequencer} {d : Device}
    {layout : Layout} {plan : Placement} {ws xs : List Operand} (streams : p.Streams pair)
    (sequencer : s.profile = p) (device : d.profile = p) (low : d.latch = 0) (memory : d.memory.size = size)
    (fits : plan.Fits layout size p.busBase ws.length xs.length) (weights : ws ≠ []) (inputs : xs ≠ []) :
    s.Ensures d (session size plan ws xs) fun results _ d' => results = xs.map (· * ws.getLast weights) ∧
      d'.memory = Device.multiply (ws.getLast weights) plan.inputs.offset (xs.length * 64) plan.outputs.offset
        (8 * xs.length) (plan.staged ws xs d.memory) ∧
      d'.rowsStreamed = d.rowsStreamed + 8 * xs.length := by
  have someWeights := List.length_pos_iff.mpr weights
  have someInputs := List.length_pos_iff.mpr inputs
  have inputsLen := fits.inputs.len
  have outputsLen := fits.outputs.len
  have outputsAddressable := fits.outputs.addressable
  unfold session
  refine (ensures_writeWeights s d fits.weights).bind ?_
  rintro _ s _ ⟨rfl, rfl⟩
  refine (ensures_writeInputs s _ fits.inputs).bind ?_
  rintro _ s d₀ ⟨rfl, same⟩
  have device₀ : d₀.profile = p := by rw [same]; exact device
  have low₀ : d₀.latch = 0 := by rw [same]; exact low
  have memory₀ : d₀.memory = plan.staged ws xs d.memory := by rw [same]; rfl
  have rows₀ : d₀.rowsStreamed = d.rowsStreamed := by rw [same]
  refine (ensures_reset streams sequencer device₀ low₀).bind ?_
  rintro _ s₁ d₁ ⟨ready₁, memory₁, rows₁⟩
  have size₁ : d₁.memory.size = size := by rw [memory₁, memory₀, plan.size_staged, memory]
  refine (ensures_loadStaged streams ready₁ size₁ fits weights (memory₁.trans memory₀)).bind ?_
  rintro _ s₂ d₂ ⟨ready₂, memory₂, rows₂, last⟩
  have size₂ : d₂.memory.size = size := by rw [memory₂, size₁]
  refine (ensures_execute streams ready₂ someInputs (by omega)
    (fits.inputs.offset? ready₂.device size₂ (by omega))
    (fits.outputs.offset? ready₂.device size₂ (by omega))).bind ?_
  rintro _ s₃ d₃ ⟨sequencer₃, executing₃, -, -, -, memory₃, rows₃⟩
  refine (ensures_finish streams sequencer₃ executing₃).bind ?_
  rintro _ s₄ d₃ ⟨-, -, rfl⟩
  have final : d₃.memory = Device.multiply (ws.getLast weights) plan.inputs.offset (xs.length * 64)
      plan.outputs.offset (8 * xs.length) (plan.staged ws xs d.memory) := by
    rw [memory₃, last, memory₂, memory₁, memory₀]
  refine (ensures_readOutputs s₄ fits.outputs.room.1 fits.outputs.room.2).mono ?_
  rintro _ _ _ ⟨rfl, -, rfl⟩
  refine ⟨?_, final, by rw [rows₃, rows₂, rows₁, rows₀]⟩
  rw [final, fits.outputs_multiply]

/-- Whatever was done before, and whatever faults there are, a session whose plan fits goes through and
gives the products of its inputs with the last of its weights. It counts their rows and changes nothing
outside the regions of the plan. -/
theorem Reach.products_of_session {p : Profile} {pair : Dispatchers} {size : Nat} {h : History} {s : Sequencer}
    {d : Device} (shipped : p ∈ Profile.all) (streams : p.dispatchers = some pair) (reach : Reach p size h s d)
    {layout : Layout} {plan : Placement} {ws xs : List Operand} (weights : ws ≠ []) (inputs : xs ≠ [])
    (placed : layout.place size p.busBase ws.length xs.length = .ok plan) (timing : Timing) (j : Journal) :
    ∃ s' d' j', (s.perform (session size plan ws xs)).runOn (Device.board timing) d j =
        ⟨some (.ok (xs.map (· * ws.getLast weights)), s'), d', j'⟩ ∧
      d'.rowsStreamed = d.rowsStreamed + 8 * xs.length ∧
      ∀ i, ¬ plan.weights.Covers i → ¬ plan.inputs.Covers i → ¬ plan.outputs.Covers i →
        d'.memory.byte i = d.memory.byte i := by
  have registers := Profile.streams_of_shipped shipped streams
  have coupled := reach.coupled registers
  obtain ⟨-, fits⟩ := Layout.fits_of_place placed
  obtain ⟨results, s', d', j', run, rfl, memory, rows⟩ := ensures_session registers coupled.sequencer coupled.device
    coupled.latch coupled.size fits weights inputs timing j
  refine ⟨s', d', j', run, rows, ?_⟩
  intro i notWeights notInputs notOutputs
  rw [memory]
  exact fits.byte_multiply _ notWeights notInputs notOutputs

/-- Two inputs after a drain was armed and never fed. -/
theorem session_after_abandoned_drain :
    ∃ (s s' : Sequencer) (d d' : Device) (plan : Placement) (j' : Journal), s.activity = .drainArmed 2 ∧
      Layout.default.place 0x10000 Profile.hpsMsgdma.busBase 1 2 = .ok plan ∧
      (s.perform (session 0x10000 plan [.identity] [.identity, .asymmetric 3])).runOn (Device.board (.steady 0)) d
          .empty =
        ⟨some (.ok [Matrix.identity * Matrix.identity, Matrix.asymmetric 3 * Matrix.identity], s'), d', j'⟩ ∧
      d'.rowsStreamed = d.rowsStreamed + 16 := by
  have shipped : Profile.hpsMsgdma ∈ Profile.all := List.mem_cons_self
  have reach : Reach .hpsMsgdma 0x10000 _ _ _ :=
    .call (t := .steady 0) (j := .empty) (.fresh .default) (.arm 0x20004000 2) rfl
  have weights : [Matrix.identity] ≠ [] := List.cons_ne_nil _ _
  have inputs : [Matrix.identity, Matrix.asymmetric 3] ≠ [] := List.cons_ne_nil _ _
  have placed : Layout.default.place 0x10000 Profile.hpsMsgdma.busBase [Matrix.identity].length
      [Matrix.identity, Matrix.asymmetric 3].length = .ok ⟨⟨"weights", 0, 64, 0x20000000⟩,
        ⟨"inputs", 0x1000, 128, 0x20001000⟩, ⟨"outputs", 0x4000, 512, 0x20004000⟩⟩ := by cbv
  obtain ⟨s', d', j', run, rows, -⟩ := reach.products_of_session shipped rfl weights inputs placed (.steady 0) .empty
  exact ⟨_, s', _, d', _, j', rfl, placed, run, rows⟩

end Systolic
