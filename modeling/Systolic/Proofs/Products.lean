import Systolic.Proofs.Benchmark
import Systolic.Proofs.Reports
import Systolic.Proofs.Session

namespace Systolic

open Sequencer Program

/-- Bytes that are stored outside a range may as well be stored once the range is empty. -/
theorem Memory.clear_store (m : Memory) {offset len place : Nat} {bytes : List UInt8}
    (apart : place + bytes.length ≤ offset ∨ offset + len ≤ place) :
    (m.store place bytes).clear offset len = (m.clear offset len).store place bytes := by
  ext i
  · rw [size_clear, size_store, size_store, size_clear]
  · by_cases within : offset ≤ i ∧ i < offset + len
    · rw [byte_clear, if_pos within, byte_store_outside _ (by omega), byte_clear, if_pos within]
    · rw [byte_clear, if_neg within, byte_store, byte_store, byte_clear, if_neg within]

variable {p : Profile} {pair : Dispatchers} {limit : PollLimit} {faults : Faults} {s : Sequencer} {d : Device}
  {size : Nat}

/-- Operands stay staged when the room for the results is emptied. -/
theorem Placement.Fits.clear_staged {plan : Placement} {layout : Layout} {busBase : UInt32} {ws xs : List Operand}
    (fits : plan.Fits layout size busBase ws.length xs.length) (m : Memory) :
    (plan.staged ws xs m).clear plan.outputs.offset plan.outputs.len =
      plan.staged ws xs (m.clear plan.outputs.offset plan.outputs.len) := by
  have weightsLen := fits.weights.len
  have inputsLen := fits.inputs.len
  have weightsApart := fits.weights_outputs
  have inputsApart := fits.inputs_outputs
  unfold Region.stop at weightsApart inputsApart
  have weightBytes := Wire.length_weightBatch ws
  have inputBytes := Wire.length_inputBatch xs
  rw [staged, Memory.clear_store _ (by omega), Memory.clear_store _ (by omega)]
  rfl

theorem Sequencer.ensures_clear (s : Sequencer) (d : Device) {r : Region} (inside : r.offset + r.len ≤ size) :
    s.Ensures d (liftM (Staging.clear size r)) fun _ s' d' =>
      s' = s ∧ d' = { d with memory := d.memory.clear r.offset r.len } :=
  fun timing => achieves_clear (Device.board timing) s d inside

namespace Driven

theorem withMemory (driven : Driven p limit faults s d) (memory : Memory) :
    Driven p limit faults s { d with memory } :=
  ⟨driven.sequencer, driven.limit, driven.device, driven.faults, driven.status⟩

/-- A call whose writes are known leaves the two as it found them but for these, whatever else it ensures. -/
theorem carried {α : Type} {x : SequencerM α} {ws : List Write} {s' : Sequencer}
    {post : α → Sequencer → Device → Prop} (driven : Driven p limit faults s d) (issues : s.Issues x ws s')
    (sameProfile : s'.profile = s.profile) (sameLimit : s'.limit = s.limit) (ensures : s.Ensures d x post) :
    s.Ensures d x fun a after d' => Driven p limit faults after d' ∧ post a after d' := by
  refine ((issues.ensures d).and ensures).mono ?_
  rintro a _ _ ⟨⟨rfl, rfl⟩, holds⟩
  exact ⟨driven.moved sameProfile sameLimit ws, holds⟩

end Driven

namespace Benchmark

variable {plan : Plan} {regions : Placement}

/-- What is reported of each phase hangs on the faults and the clocks alone, and the results are the products whatever
these are. -/
theorem ensures_run (shipped : p ∈ Profile.all) (streams : p.Streams pair) (driven : Driven p limit faults s d)
    (low : d.latch = 0) (memory : d.memory.size = size)
    (placed : plan.layout.place size p.busBase 1 plan.batch = .ok regions) :
    s.Ensures d (run size plan) fun report _ _ => ∃ resets loads ends, report =
      ⟨plan.batch, [faults.resetReport limit resets, faults.loadReport limit loads, faults.finishReport limit ends],
        ⟨64 * plan.batch, 0, [], none⟩⟩ := by
  obtain ⟨⟨-, someInputs⟩, fits⟩ := Layout.fits_of_place placed
  have count := length_inputs plan
  have staged : regions.Fits plan.layout size p.busBase [plan.weights].length (inputs plan).length := count.symm ▸ fits
  have inputsLen := fits.inputs.len
  have outputsLen := fits.outputs.len
  have outputsAddressable := fits.outputs.addressable
  have placed : plan.layout.place size s.profile.busBase 1 plan.batch = .ok regions := by
    rw [driven.sequencer]
    exact placed
  let empty := d.memory.clear regions.outputs.offset regions.outputs.len
  unfold run
  refine .get_bind (.check_bind (perform_except s _) placed ?_)
  refine (ensures_writeWeights s d staged.weights).bind ?_
  rintro _ s _ ⟨rfl, rfl⟩
  refine (ensures_writeInputs s _ staged.inputs).bind ?_
  rintro _ s d₀ ⟨rfl, same⟩
  have driven₀ : Driven p limit faults s d₀ := same ▸ (driven.withMemory _).withMemory _
  have low₀ : d₀.latch = 0 := by rw [same]; exact low
  have memory₀ : d₀.memory = regions.staged [plan.weights] (inputs plan) d.memory := by rw [same]; rfl
  refine (driven₀.carried (issues_reset s) rfl rfl ((driven₀.reset shipped streams).and
    (ensures_reset streams driven₀.sequencer driven₀.device low₀))).bind ?_
  rintro _ s₁ d₁ ⟨driven₁, ⟨resets, rfl⟩, ready₁, memory₁, -⟩
  refine (ensures_clear s₁ d₁ fits.outputs.inside).bind ?_
  rintro _ s₁ d₂ ⟨rfl, cleared⟩
  have driven₂ : Driven p limit faults s₁ d₂ := cleared ▸ driven₁.withMemory _
  have ready₂ : Ready p s₁ d₂ := cleared ▸ ⟨ready₁.sequencer, ready₁.device, ready₁.idle, ready₁.low⟩
  have memory₂ : d₂.memory = regions.staged [plan.weights] (inputs plan) empty := by
    rw [← staged.clear_staged, ← memory₀, ← memory₁, cleared]
  have size₂ : d₂.memory.size = size := by rw [memory₂, regions.size_staged, Memory.size_clear, memory]
  have has := has_dispatchers streams ready₂.sequencer
  refine (driven₂.carried (issues_loadWeights regions.weights.bus ready₂.idle has Nat.one_pos (by decide)) rfl rfl
    ((driven₂.loadWeights shipped streams ready₂.idle _ Nat.one_pos (by decide)).and
      (ensures_loadStaged streams ready₂ size₂ staged (List.cons_ne_nil _ _) memory₂))).bind ?_
  rintro _ s₃ d₃ ⟨driven₃, ⟨loads, rfl⟩, ready₃, memory₃, -, active⟩
  have size₃ : d₃.memory.size = size := by rw [memory₃, size₂]
  refine (driven₃.carried (issues_execute _ _ ready₃.idle (has_dispatchers streams ready₃.sequencer) (by omega)
    (by omega)) rfl rfl (ensures_execute streams ready₃ (Nat.pos_of_ne_zero someInputs) (by omega)
      (fits.inputs.offset? ready₃.device size₃ (by omega))
      (fits.outputs.offset? ready₃.device size₃ (by omega)))).bind ?_
  rintro _ s₄ d₄ ⟨driven₄, sequencer₄, executing, -, -, -, memory₄, -⟩
  refine ((driven₄.finish shipped streams executing).and (ensures_finish streams sequencer₄ executing)).bind ?_
  rintro _ s₅ d₄ ⟨⟨ends, rfl⟩, -, -, rfl⟩
  refine (ensures_readOutputs s₅ fits.outputs.room.1 fits.outputs.room.2).bind ?_
  rintro _ s₆ d₄ ⟨rfl, -, rfl⟩
  have products := staged.outputs_multiply (m := empty) plan.weights
  have nothing := Comparison.compare_self ((inputs plan).map fun a => a * plan.weights)
  rw [count] at products
  rw [List.length_map, count] at nothing
  have found : Wire.ofOutputBatch (d₄.memory.load regions.outputs.offset (256 * plan.batch)) =
      (inputs plan).map fun a => a * plan.weights := by
    rw [memory₄, active, memory₃, memory₂]
    exact products
  rw [found, nothing]
  exact (ensures_result _ _ _).mono fun _ _ _ same => ⟨resets, loads, ends, same⟩

end Benchmark

end Systolic
