import Systolic.Program

namespace Systolic

/-- How many more polls a deadline has time for on a clock, after `asked` of them. The clock is looked at
after a poll, so there is always time for one. -/
def Clock.room (clock : Clock) (millis asked : Nat) : Nat :=
  if millis ≤ clock.elapsed asked then 1 else clock.room millis (asked + 1) + 1
termination_by (clock.passes millis).choose - asked
decreasing_by
  have late := (clock.passes millis).choose_spec asked
  omega

theorem Clock.room_pos (clock : Clock) (millis asked : Nat) : 0 < clock.room millis asked := by
  rw [room]
  split
  · exact Nat.one_pos
  · exact Nat.succ_pos _

/-- The polls that a limit allows on a clock. -/
def PollLimit.polls (clock : Clock) : PollLimit → Nat
  | attempts polls => polls
  | deadline millis => clock.room millis 0

theorem PollLimit.polls_pos {limit : PollLimit} (nonzero : limit ≠ .attempts 0) (clock : Clock) :
    0 < limit.polls clock := by
  cases limit with
  | attempts polls => exact Nat.pos_of_ne_zero fun zero => nonzero (congrArg attempts zero)
  | deadline millis => exact clock.room_pos millis 0

variable {m : Type → Type} [Monad m]

/-- Polling until a time is over is polling as often as the clock leaves room for. -/
theorem pollUntil_eq (clock : Clock) (millis : Nat) (ready : m Bool) (asked : Nat) :
    pollUntil clock millis ready asked = pollFrom ready asked (clock.room millis asked) := by
  induction asked using Clock.room.induct clock millis with
  | case1 asked late => simp [pollUntil, Clock.room, pollFrom, late]
  | case2 asked time ih =>
    rw [pollUntil, Clock.room, if_neg time]
    simp only [pollFrom, if_neg time, ih]

theorem PollLimit.poll_eq (limit : PollLimit) (clock : Clock) (ready : m Bool) :
    limit.poll clock ready = pollFrom ready 0 (limit.polls clock) := by
  cases limit with
  | attempts polls => rfl
  | deadline millis => exact pollUntil_eq clock millis ready 0

/-- A register is polled as often as the limit allows on the clock that the wait starts. -/
theorem Program.pollRegister_eq (limit : PollLimit) (offset : Nat) (ready : UInt32 → Bool) :
    pollRegister limit offset ready =
      time fun clock => pollFrom (ready <$> readRegister offset) 0 (limit.polls clock) :=
  congrArg time (funext fun clock => limit.poll_eq clock _)

end Systolic
