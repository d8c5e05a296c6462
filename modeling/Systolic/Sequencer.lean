import Systolic.Dispatcher
import Systolic.Report

namespace Systolic

/-- What the host keeps of a board it drives. The board itself knows where it is; this is only what
was asked of it, enough to refuse a call that comes too early. -/
structure Sequencer where
  profile : Profile
  limit : PollLimit
  activity : Activity
  lastCommand : Option UInt32
deriving DecidableEq

/-- A call on a sequencer. A call that fails keeps what it did until then. -/
abbrev SequencerM := ExceptT Failure (StateT Sequencer Program)

instance : MonadLift Attempt SequencerM where
  monadLift x := (StateT.lift x.run : StateT Sequencer Program _)

namespace Sequencer

open Program

def start (profile : Profile) (limit : PollLimit) : Sequencer := ⟨profile, limit, .idle, none⟩

def writeWord (word : Nat) (value : UInt32) : SequencerM Unit := do
  let s ← get
  writeRegister (s.profile.block.offset word) value

def readWord (word : Nat) : SequencerM UInt32 := do
  let s ← get
  readRegister (s.profile.block.offset word)

def command (value : UInt32) : SequencerM Unit := do
  let s ← get
  writeWord s.profile.block.control value
  modify fun s => { s with lastCommand := some value }

def setActivity (activity : Activity) : SequencerM Unit :=
  modify fun s => { s with activity }

def pollWord (word : Nat) (done : UInt32 → Bool) : SequencerM PollOutcome := do
  let s ← get
  pollRegister s.limit (s.profile.block.offset word) done

def isBusy : SequencerM Bool := do
  let b := (← get).profile.block
  return (← readWord b.status) &&& b.busyMask != 0

def waitIdle : SequencerM Wait := do
  let b := (← get).profile.block
  let outcome ← pollWord b.status fun value => value &&& b.busyMask == 0
  return ⟨.sequencer, outcome⟩

def waitEngine (d : Dispatcher) : SequencerM Wait := do
  let s ← get
  let outcome ← d.waitIdle s.limit
  return ⟨.dma (.stream d.direction), outcome⟩

/-- The part of the board that a call needs, or what the board lacks. -/
def require {α : Type} (feature : String) (part : Profile → Option α) : SequencerM α := do
  let p := (← get).profile
  match part p with
  | some a => return a
  | none => throw (.unsupported p.name feature)

def dispatchers : SequencerM Dispatchers := require "streaming dispatchers" Profile.dispatchers

def expectIdle (disorder : Activity → Disorder) : SequencerM Unit := do
  let activity := (← get).activity
  unless activity = .idle do throw (.invalidState (disorder activity))

/-- The bytes of `count` matrices of `each` bytes, if a descriptor can hold that many. Calls ask this
before they touch a register. -/
def transferLength (count each : Nat) : Except Failure Nat :=
  if count = 0 then .error (.invalidArgument .noMatrices)
  else if count * each < UInt32.size then .ok (count * each)
  else .error (.invalidArgument (.tooManyMatrices count))

def resetEngine (d : Dispatcher) : SequencerM Wait := do
  let s ← get
  let outcome ← d.reset s.limit
  return ⟨.dma (.stream d.direction), outcome⟩

/-- Parks the array, writing the control word twice, resets both engines and waits for the array to
come to rest. Whatever was going on, nothing is afterwards. -/
def reset : SequencerM WaitReport := do
  command ControlBlock.idle
  command ControlBlock.idle
  let engines ←
    match (← get).profile.dispatchers with
    | some d => do
      let read ← resetEngine (d.engine .read)
      let write ← resetEngine (d.engine .write)
      pure [read, write]
    | none => pure []
  let idle ← waitIdle
  setActivity .idle
  return ⟨.reset, engines ++ [idle]⟩

/-- Streams `count` weight matrices from bus address `weights` into the array and has it take the last
of them, by a pulse on the latch where there is one. -/
def loadWeights (weights : UInt32) (count : Nat) : SequencerM WaitReport := do
  expectIdle .loadWhile
  let d ← dispatchers
  let len ← transferLength count 64
  let block := (← get).profile.block
  command block.loadWeights
  (d.engine .read).pushRead weights len
  let fed ← waitEngine (d.engine .read)
  let idle ← waitIdle
  match block.weightLatch with
  | some latch => do
    writeWord latch 1
    writeWord latch 0
  | none => pure ()
  return ⟨.loadWeights, [fed, idle]⟩

/-- Makes ready to take `count` results to bus address `outputs`. This goes before `feed`, so that no
result finds nowhere to go. -/
def arm (outputs : UInt32) (count : Nat) : SequencerM Unit := do
  expectIdle .armWhile
  let d ← dispatchers
  let len ← transferLength count 256
  (d.engine .write).pushWrite outputs len
  setActivity (.drainArmed count)

/-- Starts the array on `count` inputs from bus address `inputs`, as many as the drain was armed for. -/
def feed (inputs : UInt32) (count : Nat) : SequencerM Unit := do
  match (← get).activity with
  | .drainArmed armed =>
    unless count = armed do throw (.invalidArgument (.drainCount count armed))
    let d ← dispatchers
    let len ← transferLength count 64
    let block := (← get).profile.block
    match block.rowCount with
    | some rows =>
      if 8 * count < UInt32.size then writeWord rows (UInt32.ofNat (8 * count))
      else throw (.invalidArgument .rowCount)
    | none => pure ()
    command block.execute
    (d.engine .read).pushRead inputs len
    setActivity (.executing count)
  | activity => throw (.invalidState (.feedWhile activity))

def execute (inputs outputs : UInt32) (count : Nat) : SequencerM Unit := do
  arm outputs count
  feed inputs count

/-- Waits for the drain to fill and the array to come to rest. Results can be read after this and not
before. -/
def finish : SequencerM WaitReport := do
  match (← get).activity with
  | .executing _ =>
    let d ← dispatchers
    let drained ← waitEngine (d.engine .write)
    let idle ← waitIdle
    setActivity .idle
    return ⟨.execute, [drained, idle]⟩
  | activity => throw (.invalidState (.finishWhile activity))

end Sequencer

end Systolic
