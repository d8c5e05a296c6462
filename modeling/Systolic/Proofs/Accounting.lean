import Mathlib.Data.List.Forall2
import Systolic.Board.Script
import Systolic.Proofs.Polls

namespace Systolic

open Sequencer

namespace Call

/-- The phase that a call reports on, if it reports. -/
def phase? : Call → Option Phase
  | reset => some .reset
  | loadWeights .. => some .loadWeights
  | finish | runIntegrated _ => some .execute
  | arm .. | feed .. | execute .. | mac .. => none

/-- A call that only hands work over and waits for nothing. -/
def isHandover : Call → Bool
  | arm .. | feed .. | execute .. => true
  | reset | loadWeights .. | finish | runIntegrated _ | mac .. => false

/-- What the report of a call on a board speaks of, in order. -/
def awaited (p : Profile) : Call → List Awaited
  | reset =>
    if p.dispatchers.isSome then [.dma (.stream .read), .dma (.stream .write), .sequencer] else [.sequencer]
  | loadWeights .. => [.dma (.stream .read), .sequencer]
  | finish => [.dma (.stream .write), .sequencer]
  | runIntegrated _ => [.dma .integrated]
  | arm .. | feed .. | execute .. | mac .. => []

variable {s s' : Sequencer} {c : Call}

theorem Effect.awaited {ws : List Write} (effect : c.Effect s ws s') :
    (c.watches s.profile).map Watch.target = c.awaited s.profile := by
  cases effect with
  | reset =>
    dsimp only [watches, Call.awaited]
    cases s.profile.dispatchers <;> rfl
  | loadWeights _ streams | finish _ streams =>
    dsimp only [watches, Call.awaited]
    rw [streams]
    rfl
  | arm | feed | execute | runIntegrated | mac => rfl

/-- The report of a call says what came of its waits, and they make all its reads. A call that only hands work over
makes none. -/
theorem accounted (s : Sequencer) (c : Call) : s.Shows c.issue fun as answer _ =>
    (∀ phase, c.phase? = some phase →
      ∃ waits, Watched s.limit (c.watches s.profile) (reads as) waits ∧ answer = .report ⟨phase, waits⟩) ∧
    (c.isHandover → answer = .done ∧ reads as = []) := by
  have reported : ∀ {x : SequencerM WaitReport} {ws : List Watch} {phase : Phase},
      (s.Awaits s.limit x ws fun waits report _ => report = ⟨phase, waits⟩) →
        s.Shows (Answer.report <$> x) fun as answer _ =>
          ∃ waits, Watched s.limit ws (reads as) waits ∧ answer = .report ⟨phase, waits⟩ := by
    intro x ws phase awaits
    rw [map_eq_pure_bind]
    refine Sequencer.Shows.bind awaits ?_
    rintro as _ _ ⟨waits, watched, rfl⟩
    exact shows_pure ⟨waits, by rwa [List.append_nil], rfl⟩
  have silent : ∀ {x : SequencerM Unit} {s' : Sequencer}, s.ReadsNothing x s' →
      s.Shows (do let _ ← x; return Answer.done) fun as answer _ => answer = .done ∧ reads as = [] := by
    intro x s' silent
    refine Sequencer.Shows.bind silent ?_
    rintro as _ _ ⟨none, rfl⟩
    exact shows_pure ⟨rfl, by rw [List.append_nil, none]⟩
  have waited {as : List Access} {answer : Answer} {phase : Phase} (reports : c.phase? = some phase)
      (holds : ∃ waits, Watched s.limit (c.watches s.profile) (reads as) waits ∧
        answer = .report ⟨phase, waits⟩) (other : Phase) (same : c.phase? = some other) :
      ∃ waits, Watched s.limit (c.watches s.profile) (reads as) waits ∧ answer = .report ⟨other, waits⟩ := by
    obtain rfl := Option.some.inj (reports.symm.trans same)
    exact holds
  cases c with
  | reset => exact (reported (awaits_reset s)).mono fun _ _ _ holds => ⟨waited rfl holds, nofun⟩
  | loadWeights weights count =>
    exact (reported (awaits_loadWeights s weights count)).mono fun _ _ _ holds => ⟨waited rfl holds, nofun⟩
  | finish => exact (reported (awaits_finish s)).mono fun _ _ _ holds => ⟨waited rfl holds, nofun⟩
  | runIntegrated t => exact (reported (awaits_runIntegrated s t)).mono fun _ _ _ holds => ⟨waited rfl holds, nofun⟩
  | arm outputs count =>
    exact (silent (readsNothing_arm s outputs count)).mono fun _ _ _ holds => ⟨nofun, fun _ => holds⟩
  | feed inputs count =>
    exact (silent (readsNothing_feed s inputs count)).mono fun _ _ _ holds => ⟨nofun, fun _ => holds⟩
  | execute inputs outputs count =>
    exact (silent (readsNothing_execute s inputs outputs count)).mono fun _ _ _ holds => ⟨nofun, fun _ => holds⟩
  | mac => exact shows_all s fun _ _ _ => ⟨nofun, nofun⟩

end Call

namespace WaitReport

/-- A wait that has run out in a phase, and the timeout that is made of it. -/
inductive RanOut (phase : Phase) : Wait → Timeout → Prop
  | dma (engine : Engine) (polls : Nat) : RanOut phase ⟨.dma engine, .expired polls⟩ (.dma engine polls)
  | sequencer (polls : Nat) : RanOut phase ⟨.sequencer, .expired polls⟩ (.busy phase polls)

variable {phase : Phase} {w : Wait}

theorem timeout?_ready (ready : w.outcome.isReady = true) : timeout? phase w = none := by
  obtain ⟨target, outcome⟩ := w
  cases outcome with
  | ready => rfl
  | expired => nomatch ready

theorem timeout?_expired (phase : Phase) (expired : w.outcome.isReady = false) :
    ∃ t, timeout? phase w = some t ∧ RanOut phase w t := by
  obtain ⟨target, outcome⟩ := w
  cases outcome with
  | ready => nomatch expired
  | expired polls =>
    cases target with
    | dma engine => exact ⟨_, rfl, .dma engine polls⟩
    | sequencer => exact ⟨_, rfl, .sequencer polls⟩

theorem timeouts_ranOut (phase : Phase) (waits : List Wait) :
    List.Forall₂ (RanOut phase) (waits.filter fun w => !w.outcome.isReady) (timeouts ⟨phase, waits⟩) := by
  induction waits with
  | nil => exact .nil
  | cons w waits ih =>
    cases ready : w.outcome.isReady with
    | true => rwa [timeouts, List.filter_cons_of_neg (by simp [ready]), List.filterMap_cons_none (timeout?_ready ready)]
    | false =>
      obtain ⟨t, same, out⟩ := timeout?_expired phase ready
      rw [timeouts, List.filter_cons_of_pos (by simp [ready]), List.filterMap_cons_some same]
      exact .cons out ih

/-- A report that is not clean has a first wait that ran out, and its timeout comes first. -/
theorem first_timeout (phase : Phase) {waits : List Wait} (unclean : isClean ⟨phase, waits⟩ = false) :
    ∃ earlier w later t rest, waits = earlier ++ w :: later ∧ (∀ before ∈ earlier, before.outcome.isReady = true) ∧
      RanOut phase w t ∧ timeouts ⟨phase, waits⟩ = t :: rest := by
  induction waits with
  | nil => nomatch unclean
  | cons w waits ih =>
    cases ready : w.outcome.isReady with
    | true =>
      have others : isClean ⟨phase, waits⟩ = false := by simpa [isClean, ready] using unclean
      obtain ⟨earlier, out, later, t, rest, rfl, before, ranOut, first⟩ := ih others
      refine ⟨w :: earlier, out, later, t, rest, rfl, List.forall_mem_cons.mpr ⟨ready, before⟩, ranOut, ?_⟩
      rwa [timeouts, List.filterMap_cons_none (timeout?_ready ready)]
    | false =>
      obtain ⟨t, same, out⟩ := timeout?_expired phase ready
      exact ⟨[], w, waits, t, _, rfl, by simp, out, List.filterMap_cons_some same⟩

theorem timeouts_of_clean {r : WaitReport} (clean : r.isClean = true) : r.timeouts = [] := by
  refine List.filterMap_eq_nil_iff.mpr fun w among => timeout?_ready ?_
  exact List.all_eq_true.mp clean w among

theorem clean_of_timeouts {r : WaitReport} (none : r.timeouts = []) : r.isClean = true := by
  cases clean : r.isClean with
  | true => rfl
  | false =>
    obtain ⟨-, -, -, t, rest, -, -, -, some⟩ := first_timeout r.phase clean
    nomatch none.symm.trans some

theorem toExcept_ok {r : WaitReport} : r.toExcept = .ok r ↔ r.timeouts = [] := by
  unfold toExcept
  cases r.timeouts <;> simp

end WaitReport

/-- The failure that a wait in vain comes to. -/
def Awaited.failure (phase : Phase) (polls : Nat) : Awaited → Failure
  | dma engine => .dmaTimeout engine polls
  | sequencer => .busyTimeout phase polls

theorem WaitReport.toExcept_unclean {r : WaitReport} (unclean : r.isClean = false) :
    ∃ earlier target polls later, r.waits = earlier ++ ⟨target, .expired polls⟩ :: later ∧
      (∀ before ∈ earlier, before.outcome.isReady = true) ∧ r.toExcept = .error (target.failure r.phase polls) := by
  obtain ⟨earlier, w, later, t, rest, waits, before, ranOut, first⟩ := first_timeout r.phase unclean
  have fails : r.toExcept = .error t.failure := by
    rw [toExcept, first]
  cases ranOut with
  | dma engine polls => exact ⟨earlier, _, polls, later, waits, before, fails⟩
  | sequencer polls => exact ⟨earlier, _, polls, later, waits, before, fails⟩

/-- Whatever a board answers, the reads of a call are those of its waits: one register at a time, up to the first
value that the wait is over at or as often as the limit allows, and its report counts them all. A call that only
hands work over reads nothing. A report in turn is worth its first wait that ran out, if there is one. -/
theorem polls_accounted :
    (∀ {σ : Type} {b : Board σ} {before after : σ} {j j' : Journal} {s s' : Sequencer} {n : Nat} {c : Call}
        {answer : Answer}, s.limit = .attempts n →
      (s.perform c.issue).runOn b before j = ⟨some (.ok answer, s'), after, j'⟩ →
        ∃ as, j'.toList = j.toList ++ as ∧
          (∀ phase, c.phase? = some phase → ∃ report : WaitReport, answer = .report report ∧ report.phase = phase ∧
            report.waits.map Wait.target = c.awaited s.profile ∧
            Watched (.attempts n) (c.watches s.profile) (reads as) report.waits ∧
            (reads as).length = report.totalPolls) ∧
          (c.isHandover → answer = .done ∧ reads as = [])) ∧
    ∀ r : WaitReport,
      List.Forall₂ (WaitReport.RanOut r.phase) (r.waits.filter fun w => !w.outcome.isReady) r.timeouts ∧
      (r.isClean = true ↔ r.timeouts = []) ∧ (r.timeouts = [] ↔ r.toExcept = .ok r) ∧
      (r.isClean = false → ∃ earlier target polls later, r.waits = earlier ++ ⟨target, .expired polls⟩ :: later ∧
        (∀ w ∈ earlier, w.outcome.isReady = true) ∧ r.toExcept = .error (target.failure r.phase polls)) := by
  constructor
  · intro σ b before after j j' s s' n c answer limited run
    obtain ⟨as, journal, holds⟩ := Program.Shows.runOn (c.accounted s) run
    obtain ⟨reports, handover⟩ := holds answer rfl
    refine ⟨as, journal, ?_, handover⟩
    intro phase has
    obtain ⟨waits, watched, rfl⟩ := reports phase has
    rw [limited] at watched
    refine ⟨_, rfl, rfl, ?_, watched, watched.length_reads phase⟩
    rcases c.outcome s with ⟨e, nothing⟩ | ⟨ws, _, effect⟩
    · rw [nothing] at run
      nomatch run
    · exact watched.targets.trans effect.awaited
  · intro r
    exact ⟨WaitReport.timeouts_ranOut r.phase r.waits, ⟨WaitReport.timeouts_of_clean, WaitReport.clean_of_timeouts⟩,
      WaitReport.toExcept_ok.symm,
      WaitReport.toExcept_unclean⟩

/-- A load on a board whose engine is done at the second poll and whose array does not rest. -/
theorem load_polls_accounted :
    ∃ s' after j', ((Sequencer.start .hpsMsgdma (.attempts 2)).perform (Call.loadWeights 0x20000000 1).issue).runOn
        (Script.board (.steady 0)) (((Script.empty 0).preset 0x31000 [1, 0]).preset 0x30004 [1]) .empty =
        ⟨some (.ok (.report ⟨.loadWeights, [⟨.dma (.stream .read), .ready 2⟩, ⟨.sequencer, .expired 2⟩]⟩), s'), after,
          j'⟩ ∧
      Watched (.attempts 2) [⟨.dma (.stream .read), 0x31000, fun value => value &&& Csr.busy == 0⟩,
          ⟨.sequencer, 0x30004, fun value => value &&& 1 == 0⟩] (reads j'.toList)
        [⟨.dma (.stream .read), .ready 2⟩, ⟨.sequencer, .expired 2⟩] ∧
      (reads j'.toList).length = 4 := by
  have limited : (Sequencer.start .hpsMsgdma (.attempts 2)).limit = .attempts 2 := rfl
  have ran : ((Sequencer.start .hpsMsgdma (.attempts 2)).perform (Call.loadWeights 0x20000000 1).issue).runOn
      (Script.board (.steady 0)) (((Script.empty 0).preset 0x31000 [1, 0]).preset 0x30004 [1]) .empty =
        ⟨some (.ok _, _), _, _⟩ := rfl
  obtain ⟨as, journal, reports, -⟩ := polls_accounted.1 limited ran
  obtain ⟨_, same, -, -, watched, counted⟩ := reports .loadWeights rfl
  obtain rfl := Answer.report.inj same
  obtain rfl : _ = as := journal
  exact ⟨_, _, _, ran, watched, counted⟩

end Systolic
