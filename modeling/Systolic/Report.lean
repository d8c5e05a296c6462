import Systolic.Failure
import Systolic.Polling

namespace Systolic

/-- What a wait was for: an engine to finish, or the sequencer to go idle. -/
inductive Awaited where
  | dma (engine : Engine)
  | sequencer
deriving DecidableEq

structure Wait where
  target : Awaited
  outcome : PollOutcome
deriving DecidableEq

/-- The waits of one phase, in order. A wait that runs out is on record and no more: the phase goes
on, and whoever reads the report decides what it was worth. -/
structure WaitReport where
  phase : Phase
  waits : List Wait
deriving DecidableEq

namespace WaitReport

def timeout? (phase : Phase) (w : Wait) : Option Timeout :=
  match w.outcome, w.target with
  | .ready _, _ => none
  | .expired polls, .dma engine => some (.dma engine polls)
  | .expired polls, .sequencer => some (.busy phase polls)

def timeouts (r : WaitReport) : List Timeout := r.waits.filterMap (timeout? r.phase)

def isClean (r : WaitReport) : Bool := r.waits.all fun w => w.outcome.isReady

def totalPolls (r : WaitReport) : Nat :=
  r.waits.foldr (fun w polls => w.outcome.polls + polls) 0

/-- The report, or its first timeout if it has one. -/
def toExcept (r : WaitReport) : Except Failure WaitReport :=
  match r.timeouts with
  | [] => .ok r
  | t :: _ => .error t.failure

end WaitReport

end Systolic
