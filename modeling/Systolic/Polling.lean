namespace Systolic

/-- When to give up on a condition that is polled. -/
inductive PollLimit where
  | attempts (polls : Nat)
  | deadline (millis : Nat)
deriving DecidableEq

def PollLimit.default : PollLimit := attempts 100000000

/-- How a clock runs during a wait: the whole milliseconds that the wait has taken at each look at it.
Whatever time there is to wait for, every look from some look on finds it over. -/
structure Clock where
  elapsed : Nat → Nat
  passes : ∀ millis, ∃ enough, ∀ look, enough ≤ look → millis ≤ elapsed look

/-- A clock that shows another millisecond at every `rest + 1`st look. -/
def Clock.steady (rest : Nat) : Clock where
  elapsed look := look / (rest + 1)
  passes millis := ⟨millis * (rest + 1), fun _ late => (Nat.le_div_iff_mul_le (Nat.succ_pos rest)).mpr late⟩

/-- How polling ended, and after how many polls. -/
inductive PollOutcome where
  | ready (polls : Nat)
  | expired (polls : Nat)
deriving DecidableEq

namespace PollOutcome

def polls : PollOutcome → Nat
  | ready n | expired n => n

def isReady : PollOutcome → Bool
  | ready _ => true
  | expired _ => false

end PollOutcome

variable {m : Type → Type} [Monad m]

/-- Asks up to `budget` more times, `asked` times having gone before. -/
def pollFrom (ready : m Bool) (asked : Nat) : Nat → m PollOutcome
  | 0 => pure (.expired asked)
  | budget + 1 => do
    if ← ready then
      pure (.ready (asked + 1))
    else
      pollFrom ready (asked + 1) budget

/-- Asks until the answer is yes or, after an answer of no, the clock shows that the time is over,
`asked` times having gone before. -/
def pollUntil (clock : Clock) (millis : Nat) (ready : m Bool) (asked : Nat) : m PollOutcome := do
  if ← ready then
    pure (.ready (asked + 1))
  else if millis ≤ clock.elapsed asked then
    pure (.expired (asked + 1))
  else
    pollUntil clock millis ready (asked + 1)
termination_by (clock.passes millis).choose - asked
decreasing_by
  have late := (clock.passes millis).choose_spec asked
  omega

/-- Asks until the answer is yes or the limit is reached. -/
def PollLimit.poll (limit : PollLimit) (clock : Clock) (ready : m Bool) : m PollOutcome :=
  match limit with
  | attempts polls => pollFrom ready 0 polls
  | deadline millis => pollUntil clock millis ready 0

end Systolic
