import Systolic.Sequencer.Mac

namespace Systolic.MacCheck

structure Report where
  result : Int32
  expected : Int32
deriving DecidableEq

def Report.passed (r : Report) : Bool := r.result == r.expected

/-- Ten and three times seven on the single element. -/
def run : SequencerM Report := do
  let result ← Sequencer.mac 7 3 10
  return ⟨result, 10 + 3 * 7⟩

end Systolic.MacCheck
