import Systolic.Check.Comparison
import Systolic.Sequencer
import Systolic.Region.Staging

namespace Systolic.Benchmark

structure Plan where
  batch : Nat
  layout : Layout
  weights : Operand
deriving DecidableEq

def Plan.default : Plan := ⟨100, .default, .identity⟩

/-- What a benchmark found: the reports of its reset, its weight load and its run, and its results
beside the reference. -/
structure Report where
  batch : Nat
  phases : List WaitReport
  comparison : Comparison
deriving DecidableEq

namespace Report

/-- Results that come right in spite of a wait that ran out are not good enough. -/
def passed (r : Report) : Bool := r.comparison.isPass && r.phases.all WaitReport.isClean

/-- How many times faster the board was than the host, in times taken in nanoseconds. It takes a pass
to be fast, and some time to divide by. -/
def speedup (r : Report) (host board : Nat) : Option Float :=
  if r.passed ∧ 0 < board then some (Float.ofNat host / Float.ofNat board) else none

end Report

def inputs (plan : Plan) : List Operand := (List.range plan.batch).map Matrix.asymmetric

/-- Multiplies a batch on a board with `size` bytes of shared memory, and by itself, and compares. The
room for the results is cleared before the run, so none can be left from an earlier one. -/
def run (size : Nat) (plan : Plan) : SequencerM Report := do
  let busBase := (← get).profile.busBase
  let regions ← plan.layout.place size busBase 1 plan.batch
  Staging.writeWeights size regions.weights [plan.weights]
  Staging.writeInputs size regions.inputs (inputs plan)
  let expected := (inputs plan).map fun a => a * plan.weights
  let reset ← Sequencer.reset
  Staging.clear size regions.outputs
  let load ← Sequencer.loadWeights regions.weights.bus 1
  Sequencer.execute regions.inputs.bus regions.outputs.bus plan.batch
  let finish ← Sequencer.finish
  let hardware ← Staging.readOutputs size regions.outputs plan.batch
  return ⟨plan.batch, [reset, load, finish], .compare expected hardware⟩

end Systolic.Benchmark
