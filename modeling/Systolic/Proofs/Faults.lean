import Systolic.Proofs.Accounting
import Systolic.Proofs.Reports

namespace Systolic

open Sequencer Program

/-- Whether the faults of a device hold up something that a call waits for. An engine is held up in its reset by
another fault than at its work. -/
def Faults.holdUp (faults : Faults) (c : Call) : Awaited → Bool
  | .dma engine => if c = .reset then faults.stuckReset = some engine else faults.stuckDma = some engine
  | .sequencer => faults.stuckBusy

/-- The waits of a call on a board, as they come out under some faults. -/
def Faults.waits (faults : Faults) (p : Profile) (limit : PollLimit) (clocks : Awaited → Clock) (c : Call) :
    List Wait :=
  (c.awaited p).map fun target => ⟨target, limit.settle (clocks target) !faults.holdUp c target⟩

/-- A board has streaming engines, or it is the oldest one. -/
theorem Profile.streams_or_legacy {p : Profile} (shipped : p ∈ all) : (∃ pair, p.Streams pair) ∨ p = niosLegacy := by
  simp only [all, List.mem_cons, List.not_mem_nil, or_false] at shipped
  rcases shipped with rfl | rfl | rfl
  · exact .inl ⟨_, streams_hpsMsgdma⟩
  · exact .inl ⟨_, streams_niosMsgdma⟩
  · exact .inr rfl

theorem Device.status_stream (d : Device) (source : UInt32) (len : Nat) (sink : UInt32) (room : Nat) :
    (d.stream source len sink room).integratedStatus = d.integratedStatus := by
  obtain ⟨memory, rowsStreamed, streamed, -⟩ := d.stream_eq source len sink room
  rw [streamed]

/-- A start forgets that an earlier transfer was done, and the engine is done again unless it is stuck. -/
theorem Device.status_startIntegrated (d : Device) (dma : IntegratedDma) {value : UInt32}
    (starts : value &&& (IntegratedDma.startRead ||| IntegratedDma.startWrite) =
      IntegratedDma.startRead ||| IntegratedDma.startWrite) :
    (d.startIntegrated dma value).integratedStatus = (d.integratedStatus &&& ~~~IntegratedDma.doneMask) |||
      if d.faults.stuckDma = some .integrated then 0 else IntegratedDma.doneMask := by
  have finished : ∀ e : Device, (if e.faults.stuckDma = some .integrated then e
      else { e with integratedStatus := e.integratedStatus ||| IntegratedDma.doneMask }).integratedStatus =
        e.integratedStatus ||| if e.faults.stuckDma = some .integrated then 0 else IntegratedDma.doneMask := by
    intro e
    split
    · exact UInt32.or_zero.symm
    · rfl
  unfold startIntegrated
  dsimp only
  rw [if_neg (not_not.mpr starts)]
  split
  · refine (finished _).trans ?_
    rw [status_stream, (sameLatch_stream ..).faults]
  · exact finished _

namespace Driven

variable {p : Profile} {limit : PollLimit} {faults : Faults} {s : Sequencer} {d : Device}

/-- Without streaming engines only the array is waited for. -/
theorem reset_bare (shipped : p ∈ Profile.all) (bare : p.dispatchers = none) (driven : Driven p limit faults s d) :
    s.Ensures d Sequencer.reset fun report _ _ => ∃ clock, report = ⟨.reset, [faults.idleWait limit clock]⟩ := by
  unfold Sequencer.reset
  refine driven.step (issues_command s _) rfl rfl fun _ s d driven => ?_
  refine driven.step (issues_command s _) rfl rfl fun _ s d driven => ?_
  refine .get_bind ?_
  rw [driven.sequencer, bare]
  dsimp only
  rw [pure_bind]
  refine (driven.waitIdle shipped).bind ?_
  rintro _ s d ⟨⟨clock, rfl⟩, driven⟩
  refine driven.step (issues_modify s _) rfl rfl fun _ s d driven => ?_
  exact ensures_some s d (fun clock => WaitReport.mk .reset [faults.idleWait limit clock]) clock

/-- Whether the engine inside the control block is done shows in its status under its fault alone. -/
theorem doneWatch_after {dma : IntegratedDma} (driven : Driven .niosLegacy limit faults s d)
    (has : Profile.niosLegacy.integrated = some dma) (value : UInt32)
    (starts : value &&& (IntegratedDma.startRead ||| IntegratedDma.startWrite) =
      IntegratedDma.startRead ||| IntegratedDma.startWrite) :
    Profile.niosLegacy.doneWatch.ready
        ((d.write (Profile.niosLegacy.block.offset dma.writeControl) value).read Profile.niosLegacy.doneWatch.offset) =
      decide (faults.stuckDma ≠ some .integrated) := by
  obtain ⟨register, mask⟩ := Profile.status_of_shipped (p := .niosLegacy) (by decide)
  obtain rfl := Option.some.inj has
  let control := Profile.niosLegacy.block.offset 5
  have starting : d.write control value = (d.keep control value).startIntegrated ⟨2, 3, 4, 5⟩ value := by
    rw [Device.write, driven.device]
    rfl
  have status : (d.write control value).integratedStatus =
      if faults.stuckDma = some .integrated then 0 else IntegratedDma.doneMask := by
    rw [starting, Device.status_startIntegrated _ _ starts, ← driven.faults]
    show d.integratedStatus &&& ~~~IntegratedDma.doneMask ||| _ = _
    rw [driven.status, UInt32.zero_or]
    rfl
  have shows : (d.write control value).read Profile.niosLegacy.doneWatch.offset =
      (if faults.stuckBusy then 1 else 0) |||
        if faults.stuckDma = some .integrated then 0 else IntegratedDma.doneMask := by
    have same := d.sameBoard_write control value
    rw [Device.read, same.profile, driven.device, Profile.doneWatch, register]
    dsimp only
    rw [status, mask, same.faults, driven.faults]
  rw [shows]
  by_cases stuck : faults.stuckDma = some .integrated <;> cases faults.stuckBusy <;> simp [stuck, Profile.doneWatch] <;>
    decide

theorem runIntegrated (driven : Driven .niosLegacy limit faults s d) {t : Transfer} (good : t.check = .ok ()) :
    s.Ensures d (Sequencer.runIntegrated t) fun report _ _ =>
      ∃ clock, report = faults.transferReport limit clock := by
  have has : s.profile.integrated = some ⟨2, 3, 4, 5⟩ := by
    rw [driven.sequencer]
    rfl
  have starts : (IntegratedDma.startWrite ||| IntegratedDma.startRead ||| t.writeWords) &&&
      (IntegratedDma.startRead ||| IntegratedDma.startWrite) =
        IntegratedDma.startRead ||| IntegratedDma.startWrite := by
    rw [UInt32.or_comm IntegratedDma.startWrite]
    exact mask_or_and _ _
  unfold Sequencer.runIntegrated
  refine .check_bind (perform_require s _ _) (need_ok.mpr has) ?_
  refine .check_bind (perform_except s _) good (.get_bind ?_)
  rw [driven.sequencer]
  dsimp only [Profile.niosLegacy, Profile.streamingBlock]
  refine driven.step (issues_writeWord s _ _) rfl rfl fun _ s d driven => ?_
  refine driven.step (issues_writeWord s _ _) rfl rfl fun _ s d driven => ?_
  refine driven.step (issues_writeWord s _ _) rfl rfl fun _ s d driven => ?_
  refine driven.step (issues_writeWord s _ _) rfl rfl fun _ s d driven => ?_
  refine driven.step (issues_command s _) rfl rfl fun _ s d driven => ?_
  refine ((issues_writeWord s _ _).ensures d).bind ?_
  rintro _ s _ ⟨rfl, rfl⟩
  have ready := driven.doneWatch_after rfl _ starts
  have started : ∀ ws, Driven .niosLegacy limit faults s (d.writeAll ws) := driven.moved rfl rfl
  refine .bind (.get_bind ((started _).pollRegister _ _)) ?_
  rintro _ s _ ⟨⟨clock, rfl⟩, rfl, rfl⟩
  refine (ensures_result s _ _).mono ?_
  rintro _ _ _ rfl
  refine ⟨clock, ?_⟩
  rw [Faults.transferReport, ← ready, driven.sequencer]
  rfl

/-- A call that passes its checks reports its waits as the faults and the clocks have them come out. -/
theorem waits (shipped : p ∈ Profile.all) (driven : Driven p limit faults s d) {c : Call} {ws : List Write}
    {s' : Sequencer} (effect : c.Effect s ws s') :
    s.Ensures d c.issue fun answer _ _ =>
      ∃ clocks, ∀ r, answer = .report r → r.waits = faults.waits p limit clocks c := by
  rcases Profile.streams_or_legacy shipped with ⟨pair, streams⟩ | rfl
  · refine (driven.call shipped streams effect).mono ?_
    rintro _ _ _ ⟨⟨clocks, rfl⟩, -, -⟩
    refine ⟨clocks, fun r reports => ?_⟩
    have engines : p.dispatchers.isSome = true := Option.isSome_of_eq_some streams.dispatchers
    cases c with
    | reset | loadWeights | finish =>
      obtain rfl := Answer.report.inj reports
      simp [Faults.waits, Call.awaited, Faults.holdUp, engines, Faults.resetReport, Faults.loadReport,
        Faults.finishReport, Faults.resetWait, Faults.engineWait, Faults.idleWait]
    | arm | feed | execute | runIntegrated | mac => nomatch reports
  · cases effect with
    | reset =>
      refine (driven.reset_bare shipped rfl).answer.mono ?_
      rintro _ _ _ ⟨clock, rfl⟩
      refine ⟨fun _ => clock, ?_⟩
      rintro r ⟨⟩
      rfl
    | runIntegrated has good =>
      refine (driven.runIntegrated good).answer.mono ?_
      rintro _ _ _ ⟨clock, rfl⟩
      refine ⟨fun _ => clock, ?_⟩
      rintro r ⟨⟩
      simp [Faults.transferReport, Faults.waits, Call.awaited, Faults.holdUp]
    | mac has =>
      rw [Call.issue, map_eq_pure_bind]
      refine ((issues_mac _ _ _ has).ensures d).bind ?_
      intro value s d _
      refine (ensures_result s d _).mono ?_
      rintro _ _ _ rfl
      exact ⟨fun _ => .steady 0, nofun⟩
    | loadWeights _ has | arm _ has | feed _ has | execute _ has | finish _ has =>
      rw [driven.sequencer] at has
      nomatch has

end Driven

variable {p : Profile} {size : Nat} {h : History} {s s' : Sequencer} {d d' : Device}

/-- What a call on a device that has been driven from fresh on reports of its waits hangs on the faults that it has at
the time and on nothing else: those that are held up run out, and all others are over at the first poll. -/
theorem Reach.faults_reported (shipped : p ∈ Profile.all) (reach : Reach p size h s d) {n : Nat} (positive : 1 ≤ n)
    (limited : s.limit = .attempts n) {c : Call} {r : WaitReport} {timing : Timing} {j j' : Journal}
    (ran : (s.perform c.issue).runOn (Device.board timing) d j = ⟨some (.ok (.report r), s'), d', j'⟩) :
    r.waits.map Wait.target = c.awaited p ∧
    ∀ w ∈ r.waits, w.outcome = if d.faults.holdUp c w.target then .expired n else .ready 1 := by
  obtain ⟨clocks, waits⟩ : ∃ clocks, r.waits = d.faults.waits p s.limit clocks c := by
    rcases c.outcome s with ⟨e, nothing⟩ | ⟨ws, _, effect⟩
    · rw [nothing] at ran
      nomatch ran
    · obtain ⟨_, _, _, _, run, clocks, reports⟩ := (reach.driven s.limit).waits shipped effect timing j
      obtain ⟨gave, -, -⟩ := Run.mk.inj (run.symm.trans ran)
      obtain ⟨same, -⟩ := Prod.mk.inj (Option.some.inj gave)
      exact ⟨clocks, reports r (Except.ok.inj same)⟩
  rw [waits, limited]
  constructor
  · rw [Faults.waits, List.map_map]
    exact List.map_id _
  · intro w among
    obtain ⟨target, -, rfl⟩ := List.mem_map.mp among
    dsimp only [PollLimit.settle, PollLimit.polls]
    cases d.faults.holdUp c target with
    | true => rfl
    | false => exact if_pos ⟨rfl, positive⟩

/-- On the oldest board, a transfer that is held up after one that was done. -/
theorem second_transfer_held_up :
    ∃ s d s' d' j' r,
      Reach .niosLegacy 0x1000 [(.runIntegrated ⟨0x20000000, 2, 0x20000100, 8, 1⟩,
        .ok (.report ⟨.execute, [⟨.dma .integrated, .ready 1⟩]⟩))] s d ∧
      d.faults = ⟨some .integrated, false, none⟩ ∧
      (s.perform (Call.runIntegrated ⟨0x20000000, 2, 0x20000100, 8, 1⟩).issue).runOn (Device.board (.steady 0)) d
          .empty =
        ⟨some (.ok (.report r), s'), d', j'⟩ ∧
      r.waits.map Wait.target = [.dma .integrated] ∧ ∀ w ∈ r.waits, w.outcome = .expired 3 := by
  have shipped : Profile.niosLegacy ∈ Profile.all := by decide
  obtain ⟨s, d, limited, once⟩ : ∃ s d, s.limit = .attempts 3 ∧
      Reach .niosLegacy 0x1000 [(.runIntegrated ⟨0x20000000, 2, 0x20000100, 8, 1⟩,
        .ok (.report ⟨.execute, [⟨.dma .integrated, .ready 1⟩]⟩))] s d :=
    ⟨_, _, rfl, .call (t := .steady 0) (j := .empty) (.fresh (.attempts 3)) _ rfl⟩
  have stuck := once.faults ⟨some .integrated, false, none⟩
  obtain ⟨_, _, _, _, ran, _, rfl⟩ := ((stuck.driven s.limit).runIntegrated
    (t := ⟨0x20000000, 2, 0x20000100, 8, 1⟩) rfl).answer (.steady 0) .empty
  obtain ⟨targets, outcomes⟩ := stuck.faults_reported shipped (n := 3) (by decide) limited
    (c := .runIntegrated ⟨0x20000000, 2, 0x20000100, 8, 1⟩) ran
  refine ⟨_, _, _, _, _, _, stuck, rfl, ran, targets, ?_⟩
  intro w among
  rw [outcomes w among, List.mem_singleton.mp among]
  rfl

end Systolic
