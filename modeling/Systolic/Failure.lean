import Systolic.Descriptor
import Systolic.Text.Numeral
import Systolic.Text.Quoted

namespace Systolic

/-- What can move data: a streaming engine, or the one inside the control block. -/
inductive Engine where
  | stream (direction : Direction)
  | integrated
deriving DecidableEq

def Direction.name : Direction → String
  | read => "read"
  | write => "write"

def Engine.name : Engine → String
  | stream d => d.name
  | integrated => "integrated"

/-- What a report is about. -/
inductive Phase where
  | reset
  | loadWeights
  | execute
deriving DecidableEq

def Phase.description : Phase → String
  | reset => "session reset"
  | loadWeights => "weight load"
  | execute => "execution"

/-- What the host has started and not yet waited for. -/
inductive Activity where
  | idle
  | drainArmed (count : Nat)
  | executing (count : Nat)
deriving DecidableEq

def Activity.text : Activity → String
  | idle => "Idle"
  | drainArmed count => s!"DrainArmed \x7b count: {count} \x7d"
  | executing count => s!"Executing \x7b count: {count} \x7d"

/-- A wait that ran out of polls. -/
inductive Timeout where
  | dma (engine : Engine) (polls : Nat)
  | busy (phase : Phase) (polls : Nat)
deriving DecidableEq

def Timeout.message : Timeout → String
  | dma engine polls => s!"DMA timeout on {engine.name} engine after {polls} polls"
  | busy phase polls => s!"Sequencer busy timeout during {phase.description} after {polls} polls"

/-- What is wrong with an argument. -/
inductive Misuse where
  | noMatrices
  | tooManyMatrices (count : Nat)
  | drainCount (count armed : Nat)
  | wrongEngine (wanted engine : Direction)
  | emptyTransfer
  | longTransfer (len : Nat)
  | rowCount
  | noRows
  | tooManyRows (rows : Nat)
  | wordsForRows (rows : Nat)
  | longDrain (words : Nat)
  | emptyRegions
  | regionLength (region : String)
  | regionAddress (region : String)
  | regionRoom (region : String) (len need : Nat)
  | regionOutputs (region : String) (count : Nat)
  | busAddress (offset : Nat)
  | notANumber (key value : String) (fault : Text.NumeralFault)
  | twoLimits
  | zeroBudget
  | other (reason : String)
deriving DecidableEq

def Misuse.message : Misuse → String
  | noMatrices => "matrix count must be at least 1"
  | tooManyMatrices count => s!"{count} matrices exceed the DMA length word"
  | drainCount count armed => s!"feeding {count} matrices into a drain armed for {armed}"
  | wrongEngine wanted engine => s!"{wanted.name} descriptor pushed to the {engine.name} engine"
  | emptyTransfer => "zero-length transfer"
  | longTransfer len => s!"transfer of {len} bytes exceeds length word"
  | rowCount => "row count overflow"
  | noRows => "empty integrated transfer"
  | tooManyRows rows => s!"{rows} rows overflow the length words"
  | wordsForRows rows => s!"{rows} rows need {2 * rows} words in and {8 * rows} out"
  | longDrain words => s!"{words} output words exceed the write length field"
  | emptyRegions => "regions need at least one matrix"
  | regionLength region => s!"{region} region overflows"
  | regionAddress region => s!"{region} region beyond 32-bit bus"
  | regionRoom region len need => s!"{need} bytes do not fit the {region} region ({len} bytes)"
  | regionOutputs region count => s!"{count} outputs exceed the {region} region"
  | busAddress offset => s!"offset {Hex.tagged offset} beyond 32-bit bus"
  | notANumber key value fault =>
    s!"{key}={Text.quote value} is not a valid number: {fault.message}"
  | twoLimits => "NPU_POLL_BUDGET and NPU_POLL_DEADLINE_MS are mutually exclusive"
  | zeroBudget => "poll budget must be at least 1"
  | other reason => reason

/-- A call that came before its time. -/
inductive Disorder where
  | loadWhile (activity : Activity)
  | armWhile (activity : Activity)
  | feedWhile (activity : Activity)
  | finishWhile (activity : Activity)
  | other (state : String)
deriving DecidableEq

def Disorder.message : Disorder → String
  | loadWhile a => s!"load_weights while {a.text}; call wait_execution first"
  | armWhile a => s!"get_matrix while {a.text}; call wait_execution first"
  | feedWhile a => s!"load_matrix while {a.text}; arm the drain with get_matrix first"
  | finishWhile a => s!"wait_execution while {a.text}; nothing is feeding"
  | other state => state

/-- Why something could not be done. A wait that runs out is no error by itself; a report becomes one
only when it is asked to. -/
inductive Failure where
  | io (text : String)
  | mapFailed (base span : Nat) (reason : String)
  | outOfBounds (offset len limit : Nat)
  | invalidArgument (misuse : Misuse)
  | invalidState (disorder : Disorder)
  | unsupported (profile feature : String)
  | unknownProfile (name : String)
  | regionOverlap (first second : String)
  | dmaTimeout (engine : Engine) (polls : Nat)
  | busyTimeout (phase : Phase) (polls : Nat)
deriving DecidableEq

def Timeout.failure : Timeout → Failure
  | dma engine polls => .dmaTimeout engine polls
  | busy phase polls => .busyTimeout phase polls

namespace Failure

def message : Failure → String
  | io text => s!"I/O error: {text}"
  | mapFailed base span reason =>
    s!"Failed to map {Hex.tagged base}+{Hex.tagged span}: {reason}"
  | outOfBounds offset len limit =>
    s!"Out of bounds access: offset={Hex.tagged offset}, len={len}, limit={Hex.tagged limit}"
  | invalidArgument misuse => s!"Invalid argument: {misuse.message}"
  | invalidState disorder => s!"Sequencer in invalid state: {disorder.message}"
  | unsupported profile feature => s!"Profile {profile} has no {feature}"
  | unknownProfile name => s!"Unknown register profile: {name}"
  | regionOverlap first second => s!"Staging regions overlap: {first} and {second}"
  | dmaTimeout engine polls => (Timeout.dma engine polls).message
  | busyTimeout phase polls => (Timeout.busy phase polls).message

def isTimeout : Failure → Bool
  | dmaTimeout .. | busyTimeout .. => true
  | _ => false

end Failure

end Systolic
