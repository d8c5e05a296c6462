import Systolic.Board.Script
import Systolic.Proofs.Outcome

namespace Systolic

open Sequencer Program

variable {σ τ α : Type}

/-- Whether a board takes every access, whatever it answers to a read and whatever becomes of it. -/
structure Board.Accepts (b : Board σ) : Prop where
  read : ∀ s offset, (b.read s offset).isSome
  write : ∀ s offset value, (b.write s offset value).isSome

theorem Program.Issues.ended {p : Program α} {ws : List Write} {post : α → Prop} (issues : p.Issues ws post)
    {b : Board σ} (accepts : b.Accepts) (s : σ) (j : Journal) : ∃ a, (p.runOn b s j).result = some a := by
  induction p generalizing ws s j with
  | done a => exact ⟨a, rfl⟩
  | read offset next ih =>
    obtain ⟨⟨value, s'⟩, answer⟩ := Option.isSome_iff_exists.mp (accepts.read s offset)
    obtain ⟨a, ended⟩ := ih value (issues value) s' (j.record (.read offset value))
    exact ⟨a, by rw [Program.runOn, answer]; exact ended⟩
  | write offset value next ih =>
    obtain ⟨rest, -, later⟩ := issues
    obtain ⟨s', taken⟩ := Option.isSome_iff_exists.mp (accepts.write s offset value)
    obtain ⟨a, ended⟩ := ih later s' (j.record (.write offset value))
    exact ⟨a, by rw [Program.runOn, taken]; exact ended⟩
  | time next ih => exact ih _ (issues _) s j
  | load | store | clear | halt => exact issues.elim

/-- On a board that takes every access a program comes to its end, with all of its writes made. -/
theorem Program.Issues.completes {p : Program α} {ws : List Write} {post : α → Prop} (issues : p.Issues ws post)
    {b : Board σ} (accepts : b.Accepts) (s : σ) (j : Journal) :
    ∃ a, (p.runOn b s j).result = some a ∧ (p.runOn b s j).journal.writes = j.writes ++ ws ∧ post a := by
  obtain ⟨a, ended⟩ := issues.ended accepts s j
  obtain ⟨made, journal, -, whole⟩ := issues.runOn b s j
  obtain ⟨rfl, holds⟩ := whole a ended
  exact ⟨a, ended, journal, holds⟩

namespace Sequencer

/-- Calls one after the other, each under a limit of its own, with what came of each and the sequencer
after it. One that fails does not keep the next ones from being made. -/
def transcript (s : Sequencer) :
    List (PollLimit × Call) → Program (List (Except Failure Answer × Sequencer))
  | [] => done []
  | (limit, c) :: rest =>
    ({ s with limit }.perform c.issue).bind fun r => (r.2.transcript rest).bind fun rs => done (r :: rs)

/-- What of a call does not hang on its waits: whether it failed, and of what, and what the sequencer
holds to be going on after it. -/
def standing (r : Except Failure Answer × Sequencer) : Except Failure Unit × Activity × Option UInt32 :=
  (r.1.map fun _ => (), r.2.activity, r.2.lastCommand)

end Sequencer

/-- No check asks for the limit of waits. -/
theorem Call.check_limit (c : Call) (s : Sequencer) (limit : PollLimit) :
    c.check { s with limit } = c.check s := by
  cases c <;> rfl

theorem Call.Effect.limit {c : Call} {s s' : Sequencer} {ws : List Write} (effect : c.Effect s ws s')
    (limit : PollLimit) : c.Effect { s with limit } ws { s' with limit } := by
  cases effect with
  | reset => exact .reset
  | loadWeights idle streams positive fits => exact .loadWeights idle streams positive fits
  | arm idle streams positive fits => exact .arm idle streams positive fits
  | feed armed streams positive fits => exact .feed armed streams positive fits
  | execute idle streams positive fits => exact .execute idle streams positive fits
  | finish executing streams => exact .finish executing streams
  | runIntegrated has good => exact .runIntegrated has good
  | mac has => exact .mac has

/-- A call issues the same and ends the same whatever limit its waits are under. -/
theorem Call.issues_alike (c : Call) (s : Sequencer) :
    ∃ (ws : List Write) (outcome : Except Failure Unit) (after : Sequencer), ∀ limit,
      ({ s with limit }.perform c.issue).Issues ws fun r =>
        (r.1.map fun _ => ()) = outcome ∧ r.2 = { after with limit } := by
  cases checked : c.check s with
  | error e =>
    refine ⟨[], .error e, s, ?_⟩
    intro limit
    rw [refused ((c.check_limit s limit).trans checked)]
    exact ⟨rfl, rfl, rfl⟩
  | ok _ =>
    obtain ⟨ws, after, effect⟩ := accepted checked
    refine ⟨ws, .ok (), after, ?_⟩
    intro limit
    refine (effect.limit limit).issues.mono ?_
    rintro _ ⟨answer, rfl⟩
    exact ⟨rfl, rfl⟩

theorem Sequencer.transcript_alike (cs : List Call) (s : Sequencer) :
    ∃ ws standings, ∀ (calls : List (PollLimit × Call)) (limit : PollLimit), calls.map Prod.snd = cs →
      ({ s with limit }.transcript calls).Issues ws fun rs => rs.map standing = standings := by
  induction cs generalizing s with
  | nil =>
    refine ⟨[], [], ?_⟩
    intro calls limit same
    obtain rfl := List.map_eq_nil_iff.mp same
    exact ⟨rfl, rfl⟩
  | cons c cs ih =>
    obtain ⟨ws, outcome, after, first⟩ := c.issues_alike s
    obtain ⟨more, standings, rest⟩ := ih after
    refine ⟨ws ++ (more ++ []), (outcome, after.activity, after.lastCommand) :: standings, ?_⟩
    intro calls _ same
    obtain ⟨⟨limit, _⟩, calls, rfl, rfl, others⟩ := List.map_eq_cons_iff.mp same
    refine (first limit).bind ?_
    rintro ⟨r, _⟩ ⟨rfl, rfl⟩
    refine (rest calls limit others).bind ?_
    rintro rs rfl
    exact ⟨rfl, rfl⟩

/-- Neither what a board answers nor how long a sequencer waits for it changes what is done: the same
calls make the same register writes, fail at the same places of the same causes and leave the sequencer
to hold the same after each of them. -/
theorem waits_alter_nothing (s : Sequencer) {calls calls' : List (PollLimit × Call)}
    (same : calls.map Prod.snd = calls'.map Prod.snd) {b : Board σ} {b' : Board τ} (accepts : b.Accepts)
    (accepts' : b'.Accepts) (state : σ) (state' : τ) :
    ∃ rs rs', ((s.transcript calls).runOn b state .empty).result = some rs ∧
      ((s.transcript calls').runOn b' state' .empty).result = some rs' ∧
      rs.map standing = rs'.map standing ∧
      ((s.transcript calls).runOn b state .empty).journal.writes =
        ((s.transcript calls').runOn b' state' .empty).journal.writes := by
  obtain ⟨ws, standings, issues⟩ := transcript_alike (calls'.map Prod.snd) s
  obtain ⟨rs, ended, writes, stand⟩ := (issues calls s.limit same).completes accepts state .empty
  obtain ⟨rs', ended', writes', stand'⟩ := (issues calls' s.limit rfl).completes accepts' state' .empty
  exact ⟨rs, rs', ended, ended', stand.trans stand'.symm, writes.trans writes'.symm⟩

theorem Script.accepts {timing : Timing} : (Script.board timing).Accepts := ⟨fun _ _ => rfl, fun _ _ _ => rfl⟩

/-- A load, an execution and a load that comes too early: without a single poll on a board at rest, and on one
whose array never rests. -/
theorem busy_board_issues_the_same :
    let calls := [Call.loadWeights 0x20000000 1, .execute 0x20001000 0x20004000 2, .loadWeights 0x20000000 1, .finish]
    let s := Sequencer.start .hpsMsgdma .default
    let hasty := s.transcript (calls.map (.attempts 0, ·))
    let patient := s.transcript (calls.map (.attempts 3, ·))
    let busy := (Script.empty 0).preset 0x30004 [1]
    ∃ rs rs', (hasty.runOn (Script.board (.steady 0)) (.empty 0) .empty).result = some rs ∧
      (patient.runOn (Script.board (.steady 0)) busy .empty).result = some rs' ∧ rs.map standing = rs'.map standing ∧
      (hasty.runOn (Script.board (.steady 0)) (.empty 0) .empty).journal.writes =
        (patient.runOn (Script.board (.steady 0)) busy .empty).journal.writes := by
  intro calls s hasty patient busy
  exact waits_alter_nothing s (by simp) Script.accepts Script.accepts (.empty 0) busy

end Systolic
