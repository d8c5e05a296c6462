import Systolic.Sequencer
import Systolic.Text.Blank

namespace Systolic

/-- What it takes to bring a board up. `settle` is the time in microseconds that the single element is
given before its result is read. -/
structure Settings where
  profile : Profile
  limit : PollLimit
  settle : Nat
deriving DecidableEq

namespace Settings

def default : Settings := ⟨.hpsMsgdma, .default, 1⟩

def withProfile (s : Settings) (name : String) : Except Failure Settings :=
  match Profile.find? name with
  | some profile => .ok { s with profile }
  | none => .error (.unknownProfile name)

/-- A budget of nothing would have every wait run out before it looked. -/
def withPollBudget (s : Settings) (polls : Nat) : Except Failure Settings :=
  if polls = 0 then .error (.invalidArgument .zeroBudget)
  else .ok { s with limit := .attempts polls }

def profileKey : String := "NPU_PROFILE"
def budgetKey : String := "NPU_POLL_BUDGET"
def deadlineKey : String := "NPU_POLL_DEADLINE_MS"
def settleKey : String := "NPU_PE_SETTLE_US"

/-- The number a variable is set to, if it is set. White space around it does not matter. -/
def number? (lookup : String → Option String) (key : String) : Except Failure (Option Nat) :=
  match lookup key with
  | none => .ok none
  | some value =>
    match Text.readNumeral (Text.trim value) with
    | .ok n => .ok (some n)
    | .error fault => .error (.invalidArgument (.notANumber key value fault))

/-- The settings with what the variables say put over them. A wait is limited in one way only. -/
def withOverrides (s : Settings) (lookup : String → Option String) : Except Failure Settings := do
  let s ←
    match lookup profileKey with
    | some name => s.withProfile (Text.trim name)
    | none => pure s
  let budget ← number? lookup budgetKey
  let deadline ← number? lookup deadlineKey
  let s ←
    match budget, deadline with
    | some _, some _ => throw (.invalidArgument .twoLimits)
    | some polls, none => s.withPollBudget polls
    | none, some millis => pure { s with limit := .deadline millis }
    | none, none => pure s
  match ← number? lookup settleKey with
  | some settle => return { s with settle }
  | none => return s

def sequencer (s : Settings) : Sequencer := .start s.profile s.limit

end Settings

end Systolic
