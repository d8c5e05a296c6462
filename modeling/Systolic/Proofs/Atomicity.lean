import Systolic.Board.Script
import Systolic.Proofs.Outcome

namespace Systolic

open Sequencer Program

variable {σ : Type}

/-- A program that makes its writes whatever it reads cannot end with a result that `post` rules out. -/
theorem Sequencer.Issues.not_error {α : Type} {s s' s₁ : Sequencer} {x : SequencerM α} {ws : List Write}
    {e : Failure} (issues : s.Issues x ws s') (b : Board σ) (state : σ) (j : Journal) :
    ((s.perform x).runOn b state j).result ≠ some (.error e, s₁) := by
  intro failed
  obtain ⟨_, _, _, ended⟩ := Program.Issues.runOn issues b state j
  obtain ⟨_, _, same⟩ := ended _ failed
  nomatch same

theorem Call.failed {c : Call} {s s' : Sequencer} {e : Failure} {b : Board σ} {state : σ} {j : Journal}
    (failed : ((s.perform c.issue).runOn b state j).result = some (.error e, s')) :
    (s.perform c.issue).runOn b state j = ⟨some (.error e, s), state, j⟩ := by
  rcases c.outcome s with ⟨e', nothing⟩ | ⟨ws, after, effect⟩
  · rw [nothing] at failed ⊢
    obtain ⟨same, -⟩ := Prod.mk.inj (Option.some.inj failed)
    obtain rfl := Except.error.inj same
    rfl
  · exact absurd failed (effect.issues.not_error b state j)

/-- A drain that could be armed is followed by its feed without fail: what fits four words an element
fits one, and the count is the armed one. -/
theorem Sequencer.execute_of_armed {s s₁ s' : Sequencer} {inputs outputs : UInt32} {count : Nat}
    {e : Failure} {b : Board σ} {state : σ} {j : Journal}
    (armed : ((s.perform (arm outputs count)).runOn b state j).result = some (.ok (), s₁)) :
    ((s.perform (execute inputs outputs count)).runOn b state j).result ≠ some (.error e, s') := by
  cases checked : s.checkTransfer .armWhile count 256 with
  | error e' =>
    rw [arm, checkTransfer_error _ checked] at armed
    nomatch armed
  | ok _ =>
    obtain ⟨idle, ⟨pair, streams⟩, positive, fits⟩ := checkTransfer_ok checked
    exact (issues_execute inputs outputs idle streams positive fits).not_error b state j

theorem Dispatcher.failed_send {d : Dispatcher} {make : UInt32 → Descriptor}
    {asked : Except Failure UInt32} {e : Failure} {b : Board σ} {state : σ} {j : Journal}
    (failed : ((d.send make asked).runOn b state j).result = some (.error e)) :
    (d.send make asked).runOn b state j = ⟨some (.error e), state, j⟩ := by
  cases asked with
  | error e' =>
    obtain rfl := Except.error.inj (Option.some.inj failed)
    rfl
  | ok length =>
    obtain ⟨_, _, _, ended⟩ := Program.Issues.runOn (d.issues_send make length) b state j
    obtain ⟨_, same⟩ := ended _ failed
    nomatch same

/-- A call that fails has touched no register, on any board and from any state of the sequencer, and
leaves the sequencer as it was; so does a descriptor that cannot be handed over. An execution fails
before its drain is armed or not at all. -/
theorem failure_touches_nothing (b : Board σ) (state : σ) (j : Journal) :
    (∀ (s s' : Sequencer) (c : Call) (e : Failure),
      ((s.perform c.issue).runOn b state j).result = some (.error e, s') →
        s' = s ∧ (s.perform c.issue).runOn b state j = ⟨some (.error e, s), state, j⟩) ∧
    (∀ (s s₁ s' : Sequencer) (inputs outputs : UInt32) (count : Nat) (e : Failure),
      ((s.perform (arm outputs count)).runOn b state j).result = some (.ok (), s₁) →
        ((s.perform (execute inputs outputs count)).runOn b state j).result ≠ some (.error e, s')) ∧
    ∀ (d : Dispatcher) (address : UInt32) (len : Nat) (e : Failure),
      (((d.pushRead address len).run.runOn b state j).result = some (.error e) →
        (d.pushRead address len).run.runOn b state j = ⟨some (.error e), state, j⟩) ∧
      (((d.pushWrite address len).run.runOn b state j).result = some (.error e) →
        (d.pushWrite address len).run.runOn b state j = ⟨some (.error e), state, j⟩) := by
  refine ⟨?_, ?_, ?_⟩
  · intro s s' c e failed
    have nothing := Call.failed failed
    rw [nothing] at failed
    obtain ⟨-, same⟩ := Prod.mk.inj (Option.some.inj failed)
    exact ⟨same.symm, nothing⟩
  · intro s s₁ s' inputs outputs count e armed
    exact execute_of_armed armed
  · intro d address len e
    rw [d.run_pushRead, d.run_pushWrite]
    exact ⟨Dispatcher.failed_send, Dispatcher.failed_send⟩

/-- On a scripted board: more weights than a length counts, a small execution, a feed handed to the
engine that drains, and an empty drain. -/
theorem oversized_load_touches_nothing :
    let s := Sequencer.start .hpsMsgdma .default
    let load := Call.loadWeights 0x20000000 67108864
    let drain := (Profile.streamingEngines .hps).engine .write
    (s.perform load.issue).runOn (Script.board (.steady 0)) (.empty 0) .empty =
      ⟨some (.error (.invalidArgument (.tooManyMatrices 67108864)), s), .empty 0, .empty⟩ ∧
    (∀ s' e, ((s.perform (execute 0x20001000 0x20004000 2)).runOn (Script.board (.steady 0)) (.empty 0) .empty).result ≠
      some (.error e, s')) ∧
    (drain.pushRead 0x20001000 64).run.runOn (Script.board (.steady 0)) (.empty 0) .empty =
      ⟨some (.error (.invalidArgument (.wrongEngine .read .write))), .empty 0, .empty⟩ ∧
    (drain.pushWrite 0x20004000 0).run.runOn (Script.board (.steady 0)) (.empty 0) .empty =
      ⟨some (.error (.invalidArgument .emptyTransfer)), .empty 0, .empty⟩ := by
  intro s load drain
  obtain ⟨calls, executions, pushes⟩ := failure_touches_nothing (Script.board (.steady 0)) (.empty 0) .empty
  refine ⟨(calls s s load _ rfl).2, ?_, (pushes drain _ 64 _).1 rfl, (pushes drain _ 0 _).2 rfl⟩
  intro s' e
  exact executions s { s with activity := .drainArmed 2 } s' _ _ 2 e rfl

end Systolic
