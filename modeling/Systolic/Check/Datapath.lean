import Systolic.Sequencer.Transfer
import Systolic.Region.Staging

namespace Systolic.Datapath

/-- Where in the shared window the rows of a check come from and go to. -/
structure Plan where
  source : Nat
  sink : Nat
  rows : UInt32
deriving DecidableEq

def Plan.default : Plan := ⟨0, 0x100000, 8⟩

structure Report where
  phase : WaitReport
  beats : List UInt32
deriving DecidableEq

/-- The results of a check are not looked at, only that they came. -/
def Report.passed (r : Report) : Bool := r.phase.isClean

/-- The words of the output that a report keeps. -/
def beats : Nat := 16

def busAddress (base : UInt32) (offset : Nat) : Except Failure UInt32 :=
  match Region.busAddress? base offset with
  | some bus => .ok bus
  | none => .error (.invalidArgument (.busAddress offset))

/-- Each word tells its own number. -/
def marker (i : Nat) : UInt32 := (UInt32.ofNat i <<< 16) ||| 0xaa

def pattern (words : Nat) : List UInt8 :=
  (List.range words).flatMap fun i => (Word.bytes (marker i)).toList

/-- Sends a pattern through the engine inside the control block and reads back the first of what came
out. -/
def run (size : Nat) (plan : Plan) : SequencerM Report := do
  let base := (← get).profile.busBase
  let source ← busAddress base plan.source
  let sink ← busAddress base plan.sink
  let transfer ← Transfer.forRows source sink plan.rows
  transfer.check
  let room := 4 * transfer.writeWords.toNat
  Staging.writeBytes size plan.source (pattern transfer.readWords.toNat)
  Staging.zero size plan.sink room
  let phase ← Sequencer.runIntegrated transfer
  let bytes ← Staging.readBytes size plan.sink (min room (4 * beats))
  return ⟨phase, (blocks 4 bytes).map Word.ofBytes⟩

end Systolic.Datapath
