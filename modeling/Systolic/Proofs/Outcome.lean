import Systolic.Proofs.Checks
import Systolic.Proofs.Footprint

namespace Systolic

open Sequencer Program

/-- What the calls that move matrices by descriptor ask, each of `each` bytes. -/
def Sequencer.checkTransfer (s : Sequencer) (disorder : Activity → Disorder) (count each : Nat) :
    Except Failure Unit := do
  s.needIdle disorder
  let _ ← s.needDispatchers
  let _ ← transferLength count each

theorem Sequencer.checkTransfer_ok {s : Sequencer} {disorder : Activity → Disorder} {count each : Nat}
    (passes : s.checkTransfer disorder count each = .ok ()) :
    s.activity = .idle ∧ (∃ pair, s.profile.dispatchers = some pair) ∧ 0 < count ∧
      count * each < UInt32.size := by
  obtain ⟨_, idle, rest⟩ := except_bind_ok.mp passes
  obtain ⟨pair, streams, rest⟩ := except_bind_ok.mp rest
  obtain ⟨len, length, _⟩ := except_bind_ok.mp rest
  obtain ⟨positive, fits, _⟩ := transferLength_ok.mp length
  exact ⟨needIdle_ok.mp idle, ⟨pair, need_ok.mp streams⟩, positive, fits⟩

theorem Sequencer.checkTransfer_error {α : Type} {s : Sequencer} {disorder : Activity → Disorder}
    {count each : Nat} {e : Failure} (go : Dispatchers → Nat → SequencerM α)
    (fails : s.checkTransfer disorder count each = .error e) :
    s.perform (do
      expectIdle disorder
      let pair ← dispatchers
      let len ← transferLength count each
      go pair len) = done (.error e, s) := by
  rcases except_bind_error fails with busy | ⟨_, idle, rest⟩
  · exact perform_bind_fails _ (perform_expectIdle s _) busy
  rw [perform_bind_passes _ (perform_expectIdle s _) idle]
  rcases except_bind_error rest with lacks | ⟨pair, streams, rest⟩
  · exact perform_bind_fails _ (perform_dispatchers s) lacks
  rw [perform_bind_passes _ (perform_dispatchers s) streams]
  rcases except_bind_error rest with length | ⟨_, _, done⟩
  · exact perform_bind_fails _ (perform_except s _) length
  · nomatch done

def Sequencer.checkFeed (s : Sequencer) (count : Nat) : Except Failure Unit :=
  match s.activity with
  | .drainArmed armed =>
    if count = armed then do
      let _ ← s.needDispatchers
      let _ ← transferLength count 64
    else .error (.invalidArgument (.drainCount count armed))
  | activity => .error (.invalidState (.feedWhile activity))

theorem Sequencer.checkFeed_ok {s : Sequencer} {count : Nat} (passes : s.checkFeed count = .ok ()) :
    s.activity = .drainArmed count ∧ (∃ pair, s.profile.dispatchers = some pair) ∧ 0 < count ∧
      count * 64 < UInt32.size := by
  unfold checkFeed at passes
  split at passes
  · rename_i armed activity
    split at passes
    · rename_i same
      subst same
      obtain ⟨pair, streams, rest⟩ := except_bind_ok.mp passes
      obtain ⟨len, length, _⟩ := except_bind_ok.mp rest
      obtain ⟨positive, fits, _⟩ := transferLength_ok.mp length
      exact ⟨activity, ⟨pair, need_ok.mp streams⟩, positive, fits⟩
    · nomatch passes
  · nomatch passes

theorem Sequencer.checkFeed_error {s : Sequencer} {count : Nat} {e : Failure} (inputs : UInt32)
    (fails : s.checkFeed count = .error e) : s.perform (feed inputs count) = done (.error e, s) := by
  unfold checkFeed at fails
  unfold feed
  rw [perform_bind_ok _ (perform_get s)]
  cases activity : s.activity with
  | idle | executing =>
    rw [activity] at fails
    obtain rfl := Except.error.inj fails
    rfl
  | drainArmed armed =>
    rw [activity] at fails
    dsimp only at fails ⊢
    by_cases same : count = armed
    · rw [if_pos same] at fails ⊢
      rcases except_bind_error fails with lacks | ⟨pair, streams, rest⟩
      · exact perform_bind_fails _ (perform_dispatchers s) lacks
      rw [perform_bind_passes _ (perform_dispatchers s) streams]
      rcases except_bind_error rest with length | ⟨_, _, done⟩
      · exact perform_bind_fails _ (perform_except s _) length
      · nomatch done
    · rw [if_neg same] at fails ⊢
      obtain rfl := Except.error.inj fails
      rfl

def Sequencer.checkFinish (s : Sequencer) : Except Failure Unit :=
  match s.activity with
  | .executing _ => do let _ ← s.needDispatchers
  | activity => .error (.invalidState (.finishWhile activity))

theorem Sequencer.checkFinish_ok {s : Sequencer} (passes : s.checkFinish = .ok ()) :
    (∃ count, s.activity = .executing count) ∧ ∃ pair, s.profile.dispatchers = some pair := by
  unfold checkFinish at passes
  split at passes
  · rename_i count activity
    obtain ⟨pair, streams, _⟩ := except_bind_ok.mp passes
    exact ⟨⟨count, activity⟩, pair, need_ok.mp streams⟩
  · nomatch passes

theorem Sequencer.checkFinish_error {s : Sequencer} {e : Failure} (fails : s.checkFinish = .error e) :
    s.perform finish = done (.error e, s) := by
  unfold checkFinish at fails
  unfold finish
  rw [perform_bind_ok _ (perform_get s)]
  cases activity : s.activity with
  | idle | drainArmed =>
    rw [activity] at fails
    obtain rfl := Except.error.inj fails
    rfl
  | executing count =>
    rw [activity] at fails
    rcases except_bind_error fails with lacks | ⟨_, _, done⟩
    · exact perform_bind_fails _ (perform_dispatchers s) lacks
    · nomatch done

/-- What a call asks before it touches a register. Nothing that can go wrong in it is asked later. -/
def Call.check (s : Sequencer) : Call → Except Failure Unit
  | reset => .ok ()
  | loadWeights _ count => s.checkTransfer .loadWhile count 64
  | arm _ count | execute _ _ count => s.checkTransfer .armWhile count 256
  | feed _ count => s.checkFeed count
  | finish => s.checkFinish
  | runIntegrated t => do
    let _ ← s.need "integrated DMA" Profile.integrated
    t.check
  | mac .. => do let _ ← s.need "MAC processing element" Profile.mac

/-- What a call that passes its checks writes, and the sequencer after it. Neither hangs on what is read. -/
inductive Call.Effect (s : Sequencer) : Call → List Write → Sequencer → Prop
  | reset : Effect s .reset (resetWrites s.profile)
      { s with lastCommand := some ControlBlock.idle, activity := .idle }
  | loadWeights {pair : Dispatchers} {weights : UInt32} {count : Nat} (idle : s.activity = .idle)
      (streams : s.profile.dispatchers = some pair) (positive : 0 < count) (fits : count * 64 < UInt32.size) :
      Effect s (.loadWeights weights count) (loadWrites s.profile pair weights count)
        { s with lastCommand := some s.profile.block.loadWeights }
  | arm {pair : Dispatchers} {outputs : UInt32} {count : Nat} (idle : s.activity = .idle)
      (streams : s.profile.dispatchers = some pair) (positive : 0 < count) (fits : count * 256 < UInt32.size) :
      Effect s (.arm outputs count) (armWrites pair outputs count) { s with activity := .drainArmed count }
  | feed {pair : Dispatchers} {inputs : UInt32} {count : Nat} (armed : s.activity = .drainArmed count)
      (streams : s.profile.dispatchers = some pair) (positive : 0 < count) (fits : count * 64 < UInt32.size) :
      Effect s (.feed inputs count) (feedWrites s.profile pair inputs count)
        { s with lastCommand := some s.profile.block.execute, activity := .executing count }
  | execute {pair : Dispatchers} {inputs outputs : UInt32} {count : Nat} (idle : s.activity = .idle)
      (streams : s.profile.dispatchers = some pair) (positive : 0 < count) (fits : count * 256 < UInt32.size) :
      Effect s (.execute inputs outputs count)
        (armWrites pair outputs count ++ feedWrites s.profile pair inputs count)
        { s with lastCommand := some s.profile.block.execute, activity := .executing count }
  | finish {pair : Dispatchers} {count : Nat} (executing : s.activity = .executing count)
      (streams : s.profile.dispatchers = some pair) :
      Effect s .finish [] { s with activity := .idle }
  | runIntegrated {dma : IntegratedDma} {t : Transfer} (has : s.profile.integrated = some dma)
      (good : t.check = .ok ()) :
      Effect s (.runIntegrated t) (transferWrites s.profile dma t)
        { s with lastCommand := some s.profile.block.execute }
  | mac {block : MacBlock} {weight x y : Int32} (has : s.profile.mac = some block) :
      Effect s (.mac weight x y) (macWrites s.profile block weight x y) s

theorem Call.Effect.issues {s s' : Sequencer} {c : Call} {ws : List Write} (effect : c.Effect s ws s') :
    s.Issues c.issue ws s' := by
  have silent {α : Type} {x : SequencerM α} {s s' : Sequencer} {ws : List Write} (issues : s.Issues x ws s') :
      s.Issues (do let _ ← x; return Answer.done) ws s' := by
    rw [← ws.append_nil]
    exact issues.bind fun _ => issues_pure s' _
  cases effect with
  | reset => exact issues_map _ (issues_reset s)
  | loadWeights idle streams positive fits => exact issues_map _ (issues_loadWeights _ idle streams positive fits)
  | arm idle streams positive fits => exact silent (issues_arm _ idle streams positive fits)
  | feed armed streams positive fits => exact silent (issues_feed _ armed streams positive fits)
  | execute idle streams positive fits => exact silent (issues_execute _ _ idle streams positive fits)
  | finish executing streams => exact issues_map _ (issues_finish executing streams)
  | runIntegrated has good => exact issues_map _ (issues_runIntegrated has good)
  | mac has => exact issues_map _ (issues_mac _ _ _ has)

/-- A call that passes its checks cannot fail later. -/
theorem Call.accepted {s : Sequencer} {c : Call} (passes : c.check s = .ok ()) :
    ∃ ws s', c.Effect s ws s' := by
  cases c with
  | reset => exact ⟨_, _, .reset⟩
  | loadWeights weights count =>
    obtain ⟨idle, ⟨pair, streams⟩, positive, fits⟩ := checkTransfer_ok passes
    exact ⟨_, _, .loadWeights idle streams positive fits⟩
  | arm outputs count =>
    obtain ⟨idle, ⟨pair, streams⟩, positive, fits⟩ := checkTransfer_ok passes
    exact ⟨_, _, .arm idle streams positive fits⟩
  | execute inputs outputs count =>
    obtain ⟨idle, ⟨pair, streams⟩, positive, fits⟩ := checkTransfer_ok passes
    exact ⟨_, _, .execute idle streams positive fits⟩
  | feed inputs count =>
    obtain ⟨armed, ⟨pair, streams⟩, positive, fits⟩ := checkFeed_ok passes
    exact ⟨_, _, .feed armed streams positive fits⟩
  | finish =>
    obtain ⟨⟨count, executing⟩, pair, streams⟩ := checkFinish_ok passes
    exact ⟨_, _, .finish executing streams⟩
  | runIntegrated t =>
    obtain ⟨dma, has, good⟩ := except_bind_ok.mp passes
    exact ⟨_, _, .runIntegrated (need_ok.mp has) good⟩
  | mac weight x y =>
    obtain ⟨block, has, _⟩ := except_bind_ok.mp passes
    exact ⟨_, _, .mac (need_ok.mp has)⟩

theorem Sequencer.perform_map_error {α β : Type} {s : Sequencer} {x : SequencerM α} {e : Failure} (f : α → β)
    (fails : s.perform x = done (.error e, s)) : s.perform (f <$> x) = done (.error e, s) := by
  rw [map_eq_pure_bind]
  exact perform_bind_error _ fails

/-- A call that does not pass its checks is nothing but its failure. -/
theorem Call.refused {s : Sequencer} {c : Call} {e : Failure} (fails : c.check s = .error e) :
    s.perform c.issue = done (.error e, s) := by
  cases c with
  | reset => nomatch fails
  | loadWeights weights count => exact perform_map_error _ (checkTransfer_error _ fails)
  | arm outputs count => exact perform_bind_error _ (checkTransfer_error _ fails)
  | execute inputs outputs count =>
    exact perform_bind_error _ (perform_bind_error _ (checkTransfer_error _ fails))
  | feed inputs count => exact perform_bind_error _ (checkFeed_error inputs fails)
  | finish => exact perform_map_error _ (checkFinish_error fails)
  | runIntegrated t =>
    refine perform_map_error _ ?_
    rcases except_bind_error fails with lacks | ⟨dma, has, bad⟩
    · exact perform_bind_fails _ (perform_require s _ _) lacks
    · rw [Sequencer.runIntegrated, perform_bind_passes _ (perform_require s _ _) has]
      exact perform_bind_fails _ (perform_except s _) bad
  | mac weight x y =>
    refine perform_map_error _ ?_
    rcases except_bind_error fails with lacks | ⟨_, _, done⟩
    · exact perform_bind_fails _ (perform_require s _ _) lacks
    · nomatch done

/-- Whatever the board, a call either does nothing but fail or has its effect and does not fail. -/
theorem Call.outcome (s : Sequencer) (c : Call) :
    (∃ e, s.perform c.issue = done (.error e, s)) ∨ ∃ ws s', c.Effect s ws s' := by
  cases checked : c.check s with
  | error e => exact .inl ⟨e, refused checked⟩
  | ok _ => exact .inr (accepted checked)

namespace Sequencer

/-- Calls one after the other, each under a limit of its own. One that fails does not keep the next ones
from being made. -/
def performAll (s : Sequencer) : List (PollLimit × Call) → Program Sequencer
  | [] => done s
  | (limit, c) :: rest => ({ s with limit }.perform c.issue).bind fun r => r.2.performAll rest

/-- What holds of a sequencer and of its writes, the latest first, holds after any calls if every effect
of a call keeps it. -/
theorem performAll_keeps {holds : Sequencer → List Write → Prop}
    (limited : ∀ {s h} limit, holds s h → holds { s with limit } h)
    (effected : ∀ {s s' : Sequencer} {c : Call} {ws h}, holds s h → c.Effect s ws s' → holds s' (ws.reverse ++ h))
    {s : Sequencer} {h : List Write} (before : holds s h) (calls : List (PollLimit × Call)) :
    ∃ ws s', (s.performAll calls).Issues ws (· = s') ∧ holds s' (ws.reverse ++ h) := by
  induction calls generalizing s h with
  | nil => exact ⟨[], s, ⟨rfl, rfl⟩, before⟩
  | cons call rest ih =>
    obtain ⟨limit, c⟩ := call
    have started := limited limit before
    rcases c.outcome { s with limit } with ⟨e, nothing⟩ | ⟨ws, s', effect⟩
    · obtain ⟨ws, s', issues, after⟩ := ih started
      refine ⟨ws, s', ?_, after⟩
      rw [performAll, nothing]
      exact issues
    · obtain ⟨more, s'', issues, after⟩ := ih (effected started effect)
      refine ⟨ws ++ more, s'', ?_, by simpa using after⟩
      refine Program.Issues.bind effect.issues ?_
      rintro _ ⟨a, rfl⟩
      exact issues

end Sequencer

end Systolic
