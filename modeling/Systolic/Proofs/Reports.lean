import Systolic.Proofs.Coupling
import Systolic.Proofs.Ensures

namespace Systolic

open Sequencer Program

/-- How polling ends if what is polled for holds either from the first poll on or never. -/
def PollLimit.settle (limit : PollLimit) (clock : Clock) (ready : Bool) : PollOutcome :=
  if ready ∧ 0 < limit.polls clock then .ready 1 else .expired (limit.polls clock)

/-- What never holds on a device is polled until the polls are used up. -/
theorem Device.runOn_pollFrom {timing : Timing} {d : Device} {offset : Nat} {ready : UInt32 → Bool}
    (never : ready (d.read offset) = false) (asked budget : Nat) (j : Journal) :
    ∃ j', (pollFrom (ready <$> readRegister offset) asked budget).runOn (board timing) d j =
      ⟨some (.expired (asked + budget)), d, j'⟩ := by
  induction budget generalizing asked j with
  | zero => exact ⟨j, rfl⟩
  | succ budget ih =>
    obtain ⟨j', run⟩ := ih (asked + 1) (j.record (.read offset (d.read offset)))
    refine ⟨j', ?_⟩
    show Program.runOn (board timing) (if ready (d.read offset) then done _ else _) d _ = _
    rw [if_neg (by simp [never]), run, Nat.add_assoc, Nat.add_comm 1]

/-- Reading changes nothing on a device, so that the first poll decides. -/
theorem Device.runOn_pollRegister (d : Device) (limit : PollLimit) (offset : Nat) (ready : UInt32 → Bool)
    (timing : Timing) (j : Journal) : ∃ clock j', (pollRegister limit offset ready).runOn (board timing) d j =
      ⟨some (limit.settle clock (ready (d.read offset))), d, j'⟩ := by
  refine ⟨timing j, ?_⟩
  rw [pollRegister_eq]
  unfold PollLimit.settle
  show ∃ j', (pollFrom (ready <$> readRegister offset) 0 (limit.polls (timing j))).runOn (board timing) d j = _
  cases answer : ready (d.read offset) with
  | true =>
    cases limit.polls (timing j) with
    | zero => exact ⟨j, rfl⟩
    | succ budget =>
      refine ⟨j.record (.read offset (d.read offset)), ?_⟩
      show Program.runOn (board timing) (if ready (d.read offset) then done (PollOutcome.ready 1) else _) d _ = _
      rw [if_pos answer]
      rfl
  | false =>
    obtain ⟨j', run⟩ := runOn_pollFrom answer 0 (limit.polls (timing j)) j
    exact ⟨j', by simpa using run⟩

namespace Faults

/-- The wait for the array to rest. -/
def idleWait (faults : Faults) (limit : PollLimit) (clock : Clock) : Wait :=
  ⟨.sequencer, limit.settle clock !faults.stuckBusy⟩

/-- The wait for an engine to finish. -/
def engineWait (faults : Faults) (limit : PollLimit) (clock : Clock) (direction : Direction) : Wait :=
  ⟨.dma (.stream direction), limit.settle clock (faults.stuckDma ≠ some (.stream direction))⟩

/-- The wait for an engine to come out of its reset. -/
def resetWait (faults : Faults) (limit : PollLimit) (clock : Clock) (direction : Direction) : Wait :=
  ⟨.dma (.stream direction), limit.settle clock (faults.stuckReset ≠ some (.stream direction))⟩

/-- What a reset of a board with streaming engines has waited for. No two waits of a call are for the same, so that what
they are for tells their clocks apart. -/
def resetReport (faults : Faults) (limit : PollLimit) (clocks : Awaited → Clock) : WaitReport :=
  ⟨.reset, [faults.resetWait limit (clocks (.dma (.stream .read))) .read,
    faults.resetWait limit (clocks (.dma (.stream .write))) .write, faults.idleWait limit (clocks .sequencer)]⟩

def loadReport (faults : Faults) (limit : PollLimit) (clocks : Awaited → Clock) : WaitReport :=
  ⟨.loadWeights, [faults.engineWait limit (clocks (.dma (.stream .read))) .read,
    faults.idleWait limit (clocks .sequencer)]⟩

def finishReport (faults : Faults) (limit : PollLimit) (clocks : Awaited → Clock) : WaitReport :=
  ⟨.execute, [faults.engineWait limit (clocks (.dma (.stream .write))) .write,
    faults.idleWait limit (clocks .sequencer)]⟩

/-- What a transfer by the engine inside the control block has waited for. -/
def transferReport (faults : Faults) (limit : PollLimit) (clock : Clock) : WaitReport :=
  ⟨.execute, [⟨.dma .integrated, limit.settle clock (faults.stuckDma ≠ some .integrated)⟩]⟩

/-- What a call answers on a board with streaming engines. The calls for other boards have no answer there. -/
def answer (faults : Faults) (limit : PollLimit) (clocks : Awaited → Clock) : Call → Answer
  | .reset => .report (faults.resetReport limit clocks)
  | .loadWeights .. => .report (faults.loadReport limit clocks)
  | .finish => .report (faults.finishReport limit clocks)
  | _ => .done

/-- How time passes does not matter to polls that are counted. -/
theorem answer_attempts (faults : Faults) (polls : Nat) (clocks clocks' : Awaited → Clock) (c : Call) :
    faults.answer (.attempts polls) clocks c = faults.answer (.attempts polls) clocks' c := by
  cases c <;> rfl

end Faults

theorem mask_or_and (mask x : UInt32) : (mask ||| x) &&& mask = mask := by
  apply UInt32.toBitVec_inj.mp
  ext i inside
  simp
  grind

/-- The status of the array is read at one offset on each board, and shows in one bit that it is busy. -/
theorem Profile.status_of_shipped {p : Profile} (shipped : p ∈ all) :
    p.register (p.block.offset p.block.status) = .status ∧ p.block.busyMask = 1 := by
  simp only [all, List.mem_cons, List.not_mem_nil, or_false] at shipped
  rcases shipped with rfl | rfl | rfl <;> exact ⟨rfl, rfl⟩

/-- A sequencer and the device that it drives, which shows nothing in its status but its faults and that an engine is
done. -/
structure Driven (p : Profile) (limit : PollLimit) (faults : Faults) (s : Sequencer) (d : Device) : Prop where
  sequencer : s.profile = p
  limit : s.limit = limit
  device : d.profile = p
  faults : d.faults = faults
  status : d.integratedStatus &&& ~~~IntegratedDma.doneMask = 0

/-- A call changes neither which board a sequencer drives nor the limit of its waits. -/
theorem Call.Effect.keeps {s s' : Sequencer} {c : Call} {ws : List Write} (effect : c.Effect s ws s') :
    s'.profile = s.profile ∧ s'.limit = s.limit := by
  cases effect <;> exact ⟨rfl, rfl⟩

theorem Sequencer.Ensures.answer {s : Sequencer} {d : Device} {x : SequencerM WaitReport} {κ : Type}
    {report : κ → WaitReport} (ensures : s.Ensures d x fun r _ _ => ∃ k, r = report k) :
    s.Ensures d (Answer.report <$> x) fun answer _ _ => ∃ k, answer = .report (report k) := by
  rw [map_eq_pure_bind]
  refine ensures.bind ?_
  rintro _ s d ⟨k, rfl⟩
  exact ensures_some s d (fun k => Answer.report (report k)) k

/-- Clocks for the feeding engine, for the draining one and for the array. -/
def clocksOf (feed drain array : Clock) : Awaited → Clock
  | .dma (.stream .read) => feed
  | .dma (.stream .write) => drain
  | _ => array

namespace Driven

variable {α β : Type} {p : Profile} {pair : Dispatchers} {limit : PollLimit} {faults : Faults} {s : Sequencer}
  {d : Device}

theorem moved (driven : Driven p limit faults s d) {s' : Sequencer} (sameProfile : s'.profile = s.profile)
    (sameLimit : s'.limit = s.limit) (ws : List Write) : Driven p limit faults s' (d.writeAll ws) :=
  have same := d.sameBoard_writeAll ws
  ⟨sameProfile.trans driven.sequencer, sameLimit.trans driven.limit, same.profile.trans driven.device,
    same.faults.trans driven.faults, same.status.trans driven.status⟩

/-- A step whose writes are known leaves the two as they have to be for what comes after it. -/
theorem step (driven : Driven p limit faults s d) {x : SequencerM α} {f : α → SequencerM β} {ws : List Write}
    {s' : Sequencer} {post : β → Sequencer → Device → Prop} (issues : s.Issues x ws s')
    (sameProfile : s'.profile = s.profile) (sameLimit : s'.limit = s.limit)
    (rest : ∀ a s' d', Driven p limit faults s' d' → s'.Ensures d' (f a) post) : s.Ensures d (x >>= f) post := by
  refine (issues.ensures d).bind ?_
  rintro a _ _ ⟨rfl, rfl⟩
  exact rest a _ _ (driven.moved sameProfile sameLimit ws)

theorem after (driven : Driven p limit faults s d) {c : Call} {ws : List Write} {s' : Sequencer}
    (effect : c.Effect s ws s') : Driven p limit faults s' (d.writeAll ws) :=
  driven.moved effect.keeps.1 effect.keeps.2 ws

theorem relimit (driven : Driven p limit faults s d) (other : PollLimit) :
    Driven p other faults { s with limit := other } d :=
  ⟨driven.sequencer, rfl, driven.device, driven.faults, driven.status⟩

theorem pollRegister (driven : Driven p limit faults s d) (offset : Nat) (ready : UInt32 → Bool) :
    s.Ensures d (liftM (Program.pollRegister s.limit offset ready)) fun outcome s' d' =>
      (∃ clock, outcome = limit.settle clock (ready (d.read offset))) ∧ s' = s ∧ d' = d := by
  rw [driven.limit]
  exact ensures_program s (d.runOn_pollRegister limit offset ready)

theorem waitIdle (shipped : p ∈ Profile.all) (driven : Driven p limit faults s d) :
    s.Ensures d waitIdle fun wait s' d' =>
      (∃ clock, wait = faults.idleWait limit clock) ∧ Driven p limit faults s' d' := by
  obtain ⟨register, mask⟩ := Profile.status_of_shipped shipped
  have quiet : d.integratedStatus &&& 1 = 0 := by
    have apart : (1 : UInt32) = ~~~IntegratedDma.doneMask &&& 1 := by decide
    rw [apart, ← UInt32.and_assoc, driven.status, UInt32.zero_and]
  have rests : (d.read (p.block.offset p.block.status) &&& p.block.busyMask == 0) = !faults.stuckBusy := by
    rw [Device.read, driven.device, register, mask, driven.faults]
    cases faults.stuckBusy with
    | false => simp [quiet]
    | true => simp [mask_or_and]
  refine .get_bind (.bind (.get_bind (driven.pollRegister _ _)) ?_)
  rintro _ s d ⟨⟨clock, rfl⟩, rfl, rfl⟩
  refine (ensures_pure s d _).mono ?_
  rintro _ _ _ ⟨rfl, rfl, rfl⟩
  rw [driven.sequencer, rests]
  exact ⟨⟨clock, rfl⟩, driven⟩

theorem waitEngine (streams : p.Streams pair) (driven : Driven p limit faults s d) (direction : Direction) :
    s.Ensures d (waitEngine (pair.engine direction)) fun wait s' d' =>
      (∃ clock, wait = faults.engineWait limit clock direction) ∧ Driven p limit faults s' d' := by
  have rests : (d.read (pair.block direction).status &&& Csr.busy == 0) =
      decide (faults.stuckDma ≠ some (.stream direction)) := by
    have busy : Csr.busy ≠ 0 := by decide
    rw [Device.read, driven.device, streams.register_status, driven.faults]
    dsimp only
    split <;> simp_all
  refine .get_bind (.bind (driven.pollRegister _ _) ?_)
  rintro _ s d ⟨⟨clock, rfl⟩, rfl, rfl⟩
  refine (ensures_pure s d _).mono ?_
  rintro _ _ _ ⟨rfl, rfl, rfl⟩
  dsimp only [Dispatchers.engine]
  rw [rests]
  exact ⟨⟨clock, rfl⟩, driven⟩

/-- The reset bit of an engine is gone once it is set, unless the engine is stuck. -/
theorem runOn_engineReset (streams : p.Streams pair) (driven : Driven p limit faults s d) (direction : Direction)
    (timing : Timing) (j : Journal) :
    ∃ clock j', ((pair.engine direction).reset s.limit).runOn (Device.board timing) d j =
      ⟨some (faults.resetWait limit clock direction).outcome, d.writeAll (pair.engine direction).resetWrites, j'⟩ := by
  let control := (pair.block direction).control
  have cleared : ((d.write control Csr.reset).read control &&& Csr.reset == 0) =
      decide (faults.stuckReset ≠ some (.stream direction)) := by
    have resets : Csr.reset &&& Csr.reset ≠ 0 := by decide
    have gone : Csr.reset &&& ~~~Csr.reset = 0 := by decide
    rw [Device.read, Device.profile_write, driven.device, streams.register_control]
    dsimp only
    rw [Device.write_control streams driven.device, Device.controlEngine, if_neg resets, Device.engine_setEngine,
      driven.faults]
    dsimp only
    split <;> simp_all
  obtain ⟨clock, j', polled⟩ := (d.write control Csr.reset).runOn_pollRegister limit control
    (fun value => value &&& Csr.reset == 0) timing (j.record (.write control Csr.reset))
  rw [cleared] at polled
  refine ⟨clock, (j'.record (.write (pair.block direction).status Csr.clearAll)).record (.write control 0), ?_⟩
  show Program.runOn (Device.board timing)
    ((Program.pollRegister s.limit control fun value => value &&& Csr.reset == 0).bind _)
    (d.write control Csr.reset) (j.record (.write control Csr.reset)) = _
  rw [driven.limit, Program.runOn_bind, polled]
  rfl

theorem resetEngine (streams : p.Streams pair) (driven : Driven p limit faults s d) (direction : Direction) :
    s.Ensures d (resetEngine (pair.engine direction)) fun wait s' d' =>
      (∃ clock, wait = faults.resetWait limit clock direction) ∧ Driven p limit faults s' d' := by
  refine .get_bind (.bind (ensures_program s (driven.runOn_engineReset streams direction)) ?_)
  rintro _ s d' ⟨⟨clock, rfl⟩, rfl, rfl⟩
  refine (ensures_pure s _ _).mono ?_
  rintro _ _ _ ⟨rfl, rfl, rfl⟩
  exact ⟨⟨clock, rfl⟩, driven.moved rfl rfl _⟩

section Calls

variable (shipped : p ∈ Profile.all) (streams : p.Streams pair)
include shipped streams

/-- What a reset reports. -/
theorem reset (driven : Driven p limit faults s d) :
    s.Ensures d reset fun report _ _ => ∃ clocks, report = faults.resetReport limit clocks := by
  unfold Sequencer.reset
  refine driven.step (issues_command s _) rfl rfl fun _ s d driven => ?_
  refine driven.step (issues_command s _) rfl rfl fun _ s d driven => ?_
  refine .get_bind ?_
  rw [has_dispatchers streams driven.sequencer]
  refine (driven.resetEngine streams .read).bind ?_
  rintro _ s d ⟨⟨feed, rfl⟩, driven⟩
  refine (driven.resetEngine streams .write).bind ?_
  rintro _ s d ⟨⟨drain, rfl⟩, driven⟩
  refine (driven.waitIdle shipped).bind ?_
  rintro _ s d ⟨⟨array, rfl⟩, driven⟩
  refine driven.step (issues_modify s _) rfl rfl fun _ s d driven => ?_
  exact ensures_some s d (faults.resetReport limit) (clocksOf feed drain array)

/-- What a load of weights reports. -/
theorem loadWeights (driven : Driven p limit faults s d) (idle : s.activity = .idle) (weights : UInt32) {count : Nat}
    (positive : 0 < count) (fits : count * 64 < UInt32.size) :
    s.Ensures d (loadWeights weights count) fun report _ _ => ∃ clocks, report = faults.loadReport limit clocks := by
  unfold Sequencer.loadWeights
  refine .check_bind (perform_expectIdle s _) (needIdle_ok.mpr idle) ?_
  refine .check_bind (perform_dispatchers s) (need_ok.mpr (has_dispatchers streams driven.sequencer)) ?_
  refine .check_bind (perform_except s _) (transferLength_ok.mpr ⟨positive, fits, rfl⟩) (.get_bind ?_)
  refine driven.step (issues_command s _) rfl rfl fun _ s₁ d driven => ?_
  refine driven.step (issues_pushRead s₁ pair weights (by omega) fits) rfl rfl fun _ s₁ d driven => ?_
  refine (driven.waitEngine streams .read).bind ?_
  rintro _ s₁ d ⟨⟨feed, rfl⟩, driven⟩
  refine (driven.waitIdle shipped).bind ?_
  rintro _ s₁ d ⟨⟨array, rfl⟩, driven⟩
  dsimp only
  cases s.profile.block.weightLatch with
  | none => exact ensures_some s₁ d (faults.loadReport limit) (clocksOf feed feed array)
  | some latch =>
    refine driven.step (issues_writeWord s₁ latch 1) rfl rfl fun _ s₁ d driven => ?_
    refine driven.step (issues_writeWord s₁ latch 0) rfl rfl fun _ s₁ d driven => ?_
    exact ensures_some s₁ d (faults.loadReport limit) (clocksOf feed feed array)

/-- What the end of an execution reports. -/
theorem finish (driven : Driven p limit faults s d) {count : Nat} (executing : s.activity = .executing count) :
    s.Ensures d finish fun report _ _ => ∃ clocks, report = faults.finishReport limit clocks := by
  unfold Sequencer.finish
  refine .get_bind ?_
  rw [executing]
  refine .check_bind (perform_dispatchers s) (need_ok.mpr (has_dispatchers streams driven.sequencer)) ?_
  refine (driven.waitEngine streams .write).bind ?_
  rintro _ s d ⟨⟨drain, rfl⟩, driven⟩
  refine (driven.waitIdle shipped).bind ?_
  rintro _ s d ⟨⟨array, rfl⟩, driven⟩
  refine driven.step (issues_modify s _) rfl rfl fun _ s d driven => ?_
  exact ensures_some s d (faults.finishReport limit) (clocksOf drain drain array)

/-- A call that passes its checks answers by the faults and the clocks alone, whatever else the device holds. -/
theorem call (driven : Driven p limit faults s d) {c : Call} {ws : List Write} {s' : Sequencer}
    (effect : c.Effect s ws s') :
    s.Ensures d c.issue fun answer after d' =>
      (∃ clocks, answer = faults.answer limit clocks c) ∧ after = s' ∧ d' = d.writeAll ws := by
  have silent : ∀ {x : SequencerM Unit} {ws : List Write} {s' : Sequencer}, s.Issues x ws s' →
      s.Ensures d (do let _ ← x; return Answer.done) fun answer _ _ => ∃ _ : Awaited → Clock, answer = .done := by
    intro x ws s' issues
    refine (issues.ensures d).bind ?_
    intro _ s d _
    exact ensures_some s d (fun _ => Answer.done) fun _ => .steady 0
  have answers : s.Ensures d c.issue fun answer _ _ => ∃ clocks, answer = faults.answer limit clocks c := by
    cases effect with
    | reset => exact (driven.reset shipped streams).answer
    | loadWeights idle has positive fits => exact (driven.loadWeights shipped streams idle _ positive fits).answer
    | finish executing => exact (driven.finish shipped streams executing).answer
    | arm idle has positive fits => exact silent (issues_arm _ idle has positive fits)
    | feed armed has positive fits => exact silent (issues_feed _ armed has positive fits)
    | execute idle has positive fits => exact silent (issues_execute _ _ idle has positive fits)
    | runIntegrated has =>
      rw [driven.sequencer, streams.integrated] at has
      nomatch has
    | mac has =>
      rw [driven.sequencer, streams.mac] at has
      nomatch has
  exact answers.and (effect.issues.ensures d)

theorem ran (driven : Driven p limit faults s d) {c : Call} {ws : List Write} {s' : Sequencer}
    (effect : c.Effect s ws s') (timing : Timing) (j : Journal) :
    ∃ clocks j', (s.perform c.issue).runOn (Device.board timing) d j =
      ⟨some (.ok (faults.answer limit clocks c), s'), d.writeAll ws, j'⟩ := by
  obtain ⟨_, _, _, j', run, ⟨clocks, rfl⟩, rfl, rfl⟩ := driven.call shipped streams effect timing j
  exact ⟨clocks, j', run⟩

end Calls

end Driven

section Reach

variable {p : Profile} {pair : Dispatchers} {size : Nat} {h : History} {s : Sequencer} {d : Device}

/-- Calls leave nothing in the status of a device but that an engine is done. -/
theorem Reach.status (reach : Reach p size h s d) : d.integratedStatus &&& ~~~IntegratedDma.doneMask = 0 := by
  induction reach with
  | fresh limit => exact UInt32.zero_and
  | call _ c ran ih =>
    rcases Call.ran ran with ⟨e, -, -, rfl⟩ | ⟨ws, answer, -, -, rfl⟩
    · exact ih
    · exact (Device.sameBoard_writeAll _ ws).status.trans ih
  | limit _ _ ih | faults _ _ ih | store _ _ ih | clear _ _ ih => exact ih

theorem Reach.profiles (reach : Reach p size h s d) : s.profile = p ∧ d.profile = p := by
  induction reach with
  | fresh limit => exact ⟨rfl, rfl⟩
  | call _ c ran ih =>
    rcases Call.ran ran with ⟨e, -, rfl, rfl⟩ | ⟨ws, answer, -, effect, rfl⟩
    · exact ih
    · exact ⟨effect.keeps.1.trans ih.1, (Device.profile_writeAll _ ws).trans ih.2⟩
  | limit _ _ ih | faults _ _ ih | store _ _ ih | clear _ _ ih => exact ih

theorem Reach.driven (reach : Reach p size h s d) (limit : PollLimit) : Driven p limit d.faults { s with limit } d :=
  ⟨reach.profiles.1, rfl, reach.profiles.2, rfl, reach.status⟩

/-- A call that passes its checks is a step of a history. -/
theorem Reach.effected (shipped : p ∈ Profile.all) (streams : p.Streams pair) (reach : Reach p size h s d) {c : Call}
    {ws : List Write} {s' : Sequencer} (effect : c.Effect s ws s') :
    ∃ answer, Reach p size ((c, .ok answer) :: h) s' (d.writeAll ws) := by
  obtain ⟨clocks, j', ran⟩ := (reach.driven s.limit).ran shipped streams effect (.steady 0) .empty
  exact ⟨_, reach.call c ran⟩

end Reach

end Systolic
