import Systolic.Board.Script
import Systolic.Check.Benchmark
import Systolic.Proofs.Accounting
import Systolic.Proofs.Codec
import Systolic.Proofs.Comparing
import Systolic.Proofs.Staging

namespace Systolic

open Sequencer Program

variable {σ : Type} {b : Board σ} {s : Sequencer} {pair : Dispatchers}

/-- What a call has come to that was to report on a phase: the board it is on is the same, and so is memory if the
board leaves that alone. -/
structure Phased (b : Board σ) (s : Sequencer) (t : σ) (phase : Phase) (targets : List Awaited) (r : WaitReport)
    (s' : Sequencer) (t' : σ) : Prop where
  profile : s'.profile = s.profile
  activity : s'.activity = .idle
  memory : b.KeepsMemory → b.memory t' = b.memory t
  phase : r.phase = phase
  targets : r.waits.map Wait.target = targets

namespace Sequencer

/-- A call on a board that takes every access ends with its report, on all that it waits for. -/
theorem Issues.phased {x : SequencerM WaitReport} {ws : List Write} {s' : Sequencer} {watches : List Watch}
    {phase : Phase} (issues : s.Issues x ws s') (profile : s'.profile = s.profile) (activity : s'.activity = .idle)
    (awaits : s.Awaits s.limit x watches fun waits report _ => report = ⟨phase, waits⟩) (accepts : b.Accepts) (t : σ) :
    s.Achieves b t x (Phased b s t phase (watches.map Watch.target)) := by
  refine ((issues.achieves accepts t).shown awaits).mono ?_
  rintro report _ t' ⟨⟨rfl, memory⟩, as, waits, watched, rfl⟩
  exact ⟨profile, activity, memory, rfl, watched.targets⟩

variable (streams : s.profile.dispatchers = some pair) (accepts : b.Accepts) (t : σ)
include streams accepts

theorem achieves_reset : s.Achieves b t reset
    (Phased b s t .reset [.dma (.stream .read), .dma (.stream .write), .sequencer]) := by
  have phased := (issues_reset s).phased rfl rfl (awaits_reset s) accepts t
  rwa [Call.watches, streams] at phased

theorem achieves_loadWeights (idle : s.activity = .idle) (weights : UInt32) {count : Nat} (positive : 0 < count)
    (fits : count * 64 < UInt32.size) : s.Achieves b t (loadWeights weights count)
      (Phased b s t .loadWeights [.dma (.stream .read), .sequencer]) := by
  have phased := (issues_loadWeights weights idle streams positive fits).phased rfl idle
    (awaits_loadWeights s weights count) accepts t
  rwa [Call.watches, streams] at phased

theorem achieves_execute (idle : s.activity = .idle) (inputs outputs : UInt32) {count : Nat} (positive : 0 < count)
    (fits : count * 256 < UInt32.size) : s.Achieves b t (execute inputs outputs count) fun _ s' t' =>
      s'.profile = s.profile ∧ s'.activity = .executing count ∧ (b.KeepsMemory → b.memory t' = b.memory t) := by
  refine ((issues_execute inputs outputs idle streams positive fits).achieves accepts t).mono ?_
  rintro _ _ t' ⟨rfl, memory⟩
  exact ⟨rfl, rfl, memory⟩

theorem achieves_finish {count : Nat} (executing : s.activity = .executing count) : s.Achieves b t finish
    (Phased b s t .execute [.dma (.stream .write), .sequencer]) := by
  have phased := (issues_finish executing streams).phased rfl rfl (awaits_finish s) accepts t
  rwa [Call.watches, streams] at phased

end Sequencer

namespace Benchmark

variable {size : Nat} {plan : Plan} {regions : Placement}

theorem length_inputs (plan : Plan) : (inputs plan).length = plan.batch := by
  rw [inputs, List.length_map, List.length_range]

/-- Shared memory before anything is streamed: the operands staged and the room for the results empty. -/
def prepared (plan : Plan) (regions : Placement) (m : Memory) : Memory :=
  ((m.store regions.weights.offset (Wire.weightBatch [plan.weights])).store regions.inputs.offset
    (Wire.inputBatch (inputs plan))).clear regions.outputs.offset regions.outputs.len

/-- What a benchmark on a board comes to: the reports of its three phases, and a comparison of the reference with what
is found in memory at the end. -/
structure Ran (b : Board σ) (plan : Plan) (regions : Placement) (before after : σ) (r : Report) : Prop where
  batch : r.batch = plan.batch
  phases : r.phases.map WaitReport.phase = [.reset, .loadWeights, .execute]
  targets : (r.phases.flatMap WaitReport.waits).map Wait.target =
    [.dma (.stream .read), .dma (.stream .write), .sequencer, .dma (.stream .read), .sequencer,
      .dma (.stream .write), .sequencer]
  comparison : r.comparison = .compare ((inputs plan).map fun a => a * plan.weights)
    (Wire.ofOutputBatch ((b.memory after).load regions.outputs.offset (256 * plan.batch)))
  memory : b.KeepsMemory → b.memory after = prepared plan regions (b.memory before)

/-- Where the regions are refused nothing else is done. -/
theorem refused {e : Failure} (refused : plan.layout.place size s.profile.busBase 1 plan.batch = .error e) :
    s.perform (run size plan) = done (.error e, s) := by
  rw [run, perform_bind_ok _ (perform_get s)]
  exact perform_bind_fails _ (perform_except s _) refused

/-- Where the regions are placed nothing fails any more, however the waits come out and whatever becomes of memory. -/
theorem achieves_run (streams : s.profile.dispatchers = some pair) (accepts : b.Accepts)
    (placed : plan.layout.place size s.profile.busBase 1 plan.batch = .ok regions) (t : σ) :
    s.Achieves b t (run size plan) fun report _ t' => Ran b plan regions t t' report := by
  obtain ⟨⟨-, someInputs⟩, fits⟩ := Layout.fits_of_place placed
  have outputsLen := fits.outputs.len
  have outputsAddressable := fits.outputs.addressable
  unfold run
  refine .get_bind (.check_bind (perform_except s _) placed ?_)
  refine (achieves_writeWeights b s t fits.weights).bind ?_
  rintro _ s t₁ ⟨rfl, staged₁⟩
  refine (achieves_writeInputs b s t₁ ((length_inputs plan).symm ▸ fits.inputs)).bind ?_
  rintro _ s t₂ ⟨rfl, staged₂⟩
  refine (achieves_reset streams accepts t₂).bind ?_
  intro reset s₃ t₃ first
  refine (achieves_clear b s₃ t₃ fits.outputs.inside).bind ?_
  rintro _ s₄ t₄ ⟨rfl, cleared⟩
  refine (achieves_loadWeights (first.profile ▸ streams) accepts t₄ first.activity regions.weights.bus
    (by decide) (by decide)).bind ?_
  intro load s₅ t₅ second
  have streams₅ : s₅.profile.dispatchers = some pair := by rw [second.profile, first.profile, streams]
  refine (achieves_execute streams₅ accepts t₅ second.activity regions.inputs.bus regions.outputs.bus (by omega)
    (by omega)).bind ?_
  rintro _ s₆ t₆ ⟨profile, executing, kept⟩
  refine (achieves_finish (profile ▸ streams₅) accepts t₆ executing).bind ?_
  intro finish s₇ t₇ third
  refine (achieves_readOutputs b s₇ t₇ fits.outputs.room.1 fits.outputs.room.2).bind ?_
  rintro _ s₈ _ ⟨rfl, rfl, rfl⟩
  refine (achieves_pure b _ _ _).mono ?_
  rintro _ _ _ ⟨rfl, -, rfl⟩
  refine ⟨rfl, ?_, ?_, rfl, ?_⟩
  · simp [first.phase, second.phase, third.phase]
  · simp [first.targets, second.targets, third.targets]
  · intro keeps
    rw [third.memory keeps, kept keeps, second.memory keeps, cleared, keeps.put, first.memory keeps, staged₂, keeps.put,
      staged₁, keeps.put]
    rfl

/-- The `i`-th result that memory holds. -/
def result (regions : Placement) (m : Memory) (i : Nat) : Output :=
  Wire.ofOutputs (m.block (regions.outputs.offset + 256 * i) 256)

theorem Ran.comparison_batch {before after : σ} {r : Report} (ran : Ran b plan regions before after r) :
    r.comparison = .compare ((List.range plan.batch).map fun i => Matrix.asymmetric i * plan.weights)
      ((List.range plan.batch).map (result regions (b.memory after))) := by
  rw [ran.comparison, inputs, List.map_map, Wire.ofOutputBatch, Memory.blocks_load _ _ (by omega), List.map_map]
  rfl

theorem Ran.checked {before after : σ} {r : Report} (ran : Ran b plan regions before after r) :
    r.comparison.checked = 64 * plan.batch := by
  rw [ran.comparison_batch, Comparison.checked_compare, List.length_map, List.length_range]

theorem Ran.passed {before after : σ} {r : Report} (ran : Ran b plan regions before after r) :
    r.passed = true ↔ (∀ w ∈ r.phases.flatMap WaitReport.waits, w.outcome.isReady = true) ∧
      ∀ i < plan.batch, result regions (b.memory after) i = Matrix.asymmetric i * plan.weights := by
  have clean : r.phases.all WaitReport.isClean = true ↔
      ∀ w ∈ r.phases.flatMap WaitReport.waits, w.outcome.isReady = true := by
    simp only [WaitReport.isClean, List.all_eq_true, List.mem_flatMap]
    grind
  rw [Report.passed, Bool.and_eq_true, clean, ran.comparison_batch, Comparison.isPass_batch, and_comm]

end Benchmark

theorem Script.memory_answer (t : Script) (offset : Nat) : (t.answer offset).2.memory = t.memory := by
  unfold answer
  split <;> rfl

theorem Script.keepsMemory {timing : Timing} : (Script.board timing).KeepsMemory where
  read {t t' offset value} answer := by
    have after : (t.answer offset).2 = t' := congrArg Prod.snd (Option.some.inj answer)
    rw [← after]
    exact t.memory_answer offset
  write {t t' offset value} taken := by
    obtain rfl := Option.some.inj taken
    rfl
  put t m := rfl

end Systolic
