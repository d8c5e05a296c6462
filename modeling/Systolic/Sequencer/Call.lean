import Systolic.Sequencer.Transfer
import Systolic.Sequencer.Mac

namespace Systolic

/-- The calls that a sequencer takes, so that a history of it is a list. -/
inductive Call where
  | reset
  | loadWeights (weights : UInt32) (count : Nat)
  | arm (outputs : UInt32) (count : Nat)
  | feed (inputs : UInt32) (count : Nat)
  | execute (inputs outputs : UInt32) (count : Nat)
  | finish
  | runIntegrated (transfer : Transfer)
  | mac (weight x y : Int32)
deriving DecidableEq

/-- What a call gives back when it does not fail. -/
inductive Answer where
  | done
  | report (report : WaitReport)
  | value (value : Int32)
deriving DecidableEq

def Call.issue : Call → SequencerM Answer
  | reset => .report <$> Sequencer.reset
  | loadWeights weights count => .report <$> Sequencer.loadWeights weights count
  | arm outputs count => do Sequencer.arm outputs count; return .done
  | feed inputs count => do Sequencer.feed inputs count; return .done
  | execute inputs outputs count => do Sequencer.execute inputs outputs count; return .done
  | finish => .report <$> Sequencer.finish
  | runIntegrated transfer => .report <$> Sequencer.runIntegrated transfer
  | mac weight x y => .value <$> Sequencer.mac weight x y

end Systolic
