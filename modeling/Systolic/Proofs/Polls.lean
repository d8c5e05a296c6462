import Systolic.Proofs.Accesses

namespace Systolic

open Sequencer Program

variable {α β : Type}

def Access.read? : Access → Option (Nat × UInt32)
  | read offset value => some (offset, value)
  | write .. => none

/-- The reads among accesses, in order. -/
def reads (as : List Access) : List (Nat × UInt32) := as.filterMap Access.read?

theorem reads_append (as more : List Access) : reads (as ++ more) = reads as ++ reads more :=
  List.filterMap_append

theorem reads_map_read (offset : Nat) (values : List UInt32) :
    reads (values.map (.read offset)) = values.map (offset, ·) := by
  induction values with
  | nil => rfl
  | cons value values ih => exact congrArg ((offset, value) :: ·) ih

/-- The outcome of polling that had polled so many times before. -/
def PollOutcome.later (asked : Nat) : PollOutcome → PollOutcome
  | ready n => ready (asked + n)
  | expired n => expired (asked + n)

/-- How polling under `n` polls comes out, by the values that it reads: it is over at the first one that it waits for,
and it reads no more than that; if none of as many as it may read is such a one, it has run out. -/
inductive Polled (n : Nat) (ready : UInt32 → Bool) : List UInt32 → PollOutcome → Prop
  | ready {early : List UInt32} {last : UInt32} (notYet : ∀ value ∈ early, ready value = false)
      (now : ready last = true) (within : early.length + 1 ≤ n) :
      Polled n ready (early ++ [last]) (.ready (early.length + 1))
  | expired {values : List UInt32} (never : ∀ value ∈ values, ready value = false) (all : values.length = n) :
      Polled n ready values (.expired n)

namespace Polled

variable {n : Nat} {ready : UInt32 → Bool} {values : List UInt32} {outcome : PollOutcome}

theorem again (polled : Polled n ready values outcome) {value : UInt32} (notYet : ready value = false) :
    Polled (n + 1) ready (value :: values) (outcome.later 1) := by
  cases polled with
  | @ready early last notBefore now within =>
    have still : ∀ v ∈ value :: early, ready v = false := List.forall_mem_cons.mpr ⟨notYet, notBefore⟩
    have same : 1 + (early.length + 1) = (value :: early).length + 1 := Nat.add_comm 1 _
    show Polled (n + 1) ready ((value :: early) ++ [last]) (.ready (1 + (early.length + 1)))
    rw [same]
    exact .ready still now (Nat.succ_le_succ within)
  | expired never all =>
    have still : ∀ v ∈ value :: values, ready v = false := List.forall_mem_cons.mpr ⟨notYet, never⟩
    show Polled (n + 1) ready (value :: values) (.expired (1 + n))
    rw [Nat.add_comm 1 n]
    exact .expired still (congrArg (· + 1) all)

theorem length (polled : Polled n ready values outcome) : values.length = outcome.polls := by
  cases polled with
  | ready => exact List.length_append
  | expired never all => exact all

end Polled

theorem Program.shows_pollFrom (offset : Nat) (ready : UInt32 → Bool) (asked budget : Nat) :
    (pollFrom (ready <$> readRegister offset) asked budget).Shows fun as outcome =>
      ∃ values fromHere, as = values.map (.read offset) ∧ outcome = fromHere.later asked ∧
        Polled budget ready values fromHere := by
  induction budget generalizing asked with
  | zero => exact ⟨[], .expired 0, rfl, rfl, .expired (by simp) rfl⟩
  | succ budget ih =>
    intro value
    show Program.Shows (if ready value then done (PollOutcome.ready (asked + 1)) else _) _
    cases answer : ready value with
    | true =>
      have first : Polled (budget + 1) ready ([] ++ [value]) (.ready 1) := .ready (by simp) answer (by simp)
      exact ⟨[value], .ready 1, rfl, rfl, first⟩
    | false =>
      refine (ih (asked + 1)).mono ?_
      rintro _ _ ⟨values, fromHere, rfl, rfl, polled⟩
      refine ⟨value :: values, fromHere.later 1, rfl, ?_, polled.again answer⟩
      cases fromHere <;> exact congrArg _ (Nat.add_assoc ..)

theorem Program.shows_pollRegister (limit : PollLimit) (offset : Nat) (ready : UInt32 → Bool) :
    (pollRegister limit offset ready).Shows fun as outcome =>
      ∃ clock values, as = values.map (.read offset) ∧ Polled (limit.polls clock) ready values outcome := by
  rw [pollRegister_eq]
  intro clock
  refine (shows_pollFrom offset ready 0 (limit.polls clock)).mono ?_
  rintro _ _ ⟨values, outcome, rfl, rfl, polled⟩
  refine ⟨clock, values, rfl, ?_⟩
  cases outcome <;> simpa [PollOutcome.later] using polled

/-- What a wait is for, with the register that shows it and the values that say that it has come. -/
structure Watch where
  target : Awaited
  offset : Nat
  ready : UInt32 → Bool

/-- The array has come to rest. -/
def Profile.idleWatch (p : Profile) : Watch :=
  ⟨.sequencer, p.block.offset p.block.status, fun value => value &&& p.block.busyMask == 0⟩

/-- Both halves of the engine inside the control block are done. -/
def Profile.doneWatch (p : Profile) : Watch :=
  ⟨.dma .integrated, p.block.offset p.block.status, fun value =>
    value &&& IntegratedDma.doneMask == IntegratedDma.doneMask⟩

/-- An engine has finished what it was handed. -/
def Dispatcher.idleWatch (d : Dispatcher) : Watch :=
  ⟨.dma (.stream d.direction), d.block.status, fun value => value &&& Csr.busy == 0⟩

/-- An engine has come out of its reset. -/
def Dispatcher.resetWatch (d : Dispatcher) : Watch :=
  ⟨.dma (.stream d.direction), d.block.control, fun value => value &&& Csr.reset == 0⟩

/-- The reads that waits in a row make, each with the polls that the limit allows on a clock of its own, and what goes
on record of them. -/
inductive Watched (limit : PollLimit) : List Watch → List (Nat × UInt32) → List Wait → Prop
  | none : Watched limit [] [] []
  | wait {w : Watch} {clock : Clock} {values : List UInt32} {outcome : PollOutcome} {ws rs waits}
      (polled : Polled (limit.polls clock) w.ready values outcome)
      (rest : Watched limit ws rs waits) :
      Watched limit (w :: ws) (values.map (w.offset, ·) ++ rs) (⟨w.target, outcome⟩ :: waits)

namespace Watched

variable {limit : PollLimit} {ws more : List Watch} {rs later : List (Nat × UInt32)} {waits others : List Wait}

theorem single {w : Watch} {clock : Clock} {values : List UInt32} {outcome : PollOutcome}
    (polled : Polled (limit.polls clock) w.ready values outcome) :
    Watched limit [w] (values.map (w.offset, ·)) [⟨w.target, outcome⟩] := by
  have one : Watched limit [w] (values.map (w.offset, ·) ++ []) [⟨w.target, outcome⟩] := .wait polled .none
  rwa [List.append_nil] at one

theorem append (first : Watched limit ws rs waits) (rest : Watched limit more later others) :
    Watched limit (ws ++ more) (rs ++ later) (waits ++ others) := by
  induction first with
  | none => exact rest
  | wait polled _ ih =>
    rw [List.append_assoc]
    exact .wait polled ih

theorem targets (watched : Watched limit ws rs waits) : waits.map Wait.target = ws.map Watch.target := by
  induction watched with
  | none => rfl
  | @wait w _ _ _ _ _ _ _ _ ih => exact congrArg (w.target :: ·) ih

/-- Waits on record read as often as they say. -/
theorem length_reads (watched : Watched limit ws rs waits) (phase : Phase) :
    rs.length = (WaitReport.mk phase waits).totalPolls := by
  induction watched with
  | none => rfl
  | wait polled _ ih =>
    rw [List.length_append, List.length_map, polled.length, ih]
    rfl

/-- Waits that may poll do, whatever they see and however time passes. -/
theorem polls_pos (watched : Watched limit ws rs waits) (nonzero : limit ≠ .attempts 0) :
    ∀ w ∈ waits, 1 ≤ w.outcome.polls := by
  induction watched with
  | none => simp
  | wait polled _ ih =>
    refine List.forall_mem_cons.mpr ⟨?_, ih⟩
    cases polled with
    | ready => exact Nat.le_add_left ..
    | expired => exact PollLimit.polls_pos nonzero _

end Watched

namespace Sequencer

variable {s s' s'' : Sequencer} {limit : PollLimit} {ws more : List Watch}

/-- If a call does not fail it has made no read, and it leaves the sequencer as `s'`. -/
def ReadsNothing (s : Sequencer) (x : SequencerM α) (s' : Sequencer) : Prop :=
  s.Shows x fun as _ after => reads as = [] ∧ after = s'

/-- If a call does not fail its reads are those of waits under a limit, and `post` holds of what these come to, of what
the call gives and of the sequencer after it. -/
def Awaits (s : Sequencer) (limit : PollLimit) (x : SequencerM α) (ws : List Watch)
    (post : List Wait → α → Sequencer → Prop) : Prop :=
  s.Shows x fun as a after => ∃ waits, Watched limit ws (reads as) waits ∧ post waits a after

theorem ReadsNothing.bind {x : SequencerM α} {f : α → SequencerM β} (first : s.ReadsNothing x s')
    (rest : ∀ a, s'.ReadsNothing (f a) s'') : s.ReadsNothing (x >>= f) s'' := by
  refine Shows.bind first ?_
  rintro as a _ ⟨none, rfl⟩
  refine (rest a).mono ?_
  rintro more b _ ⟨nor, rfl⟩
  rw [reads_append, none, nor]
  exact ⟨rfl, rfl⟩

theorem Awaits.after {x : SequencerM α} {f : α → SequencerM β} {post : List Wait → β → Sequencer → Prop}
    (first : s.ReadsNothing x s') (rest : ∀ a, s'.Awaits limit (f a) ws post) : s.Awaits limit (x >>= f) ws post := by
  refine Shows.bind first ?_
  rintro as a _ ⟨none, rfl⟩
  refine (rest a).mono ?_
  rintro more b after ⟨waits, watched, holds⟩
  rw [reads_append, none]
  exact ⟨waits, watched, holds⟩

theorem Awaits.bind {x : SequencerM α} {f : α → SequencerM β} {mid : List Wait → α → Sequencer → Prop}
    {post : List Wait → β → Sequencer → Prop} (first : s.Awaits limit x ws mid)
    (rest : ∀ waits a after, mid waits a after →
      after.Awaits limit (f a) more fun others => post (waits ++ others)) :
    s.Awaits limit (x >>= f) (ws ++ more) post := by
  refine Shows.bind first ?_
  rintro as a after ⟨waits, watched, holds⟩
  refine (rest waits a after holds).mono ?_
  rintro later b last ⟨others, watchedLater, holdsLater⟩
  rw [reads_append]
  exact ⟨waits ++ others, watched.append watchedLater, holdsLater⟩

/-- A single wait, and what comes after it. -/
theorem Awaits.step {x : SequencerM Wait} {f : Wait → SequencerM β} {w : Watch}
    {post : List Wait → β → Sequencer → Prop}
    (first : s.Awaits limit x [w] fun waits wait after => waits = [wait] ∧ after = s)
    (rest : ∀ wait, s.Awaits limit (f wait) ws fun others => post (wait :: others)) :
    s.Awaits limit (x >>= f) (w :: ws) post := by
  refine Awaits.bind first ?_
  rintro _ wait _ ⟨rfl, rfl⟩
  exact rest wait

theorem ReadsNothing.get_bind {f : Sequencer → SequencerM α} (silent : s.ReadsNothing (f s) s') :
    s.ReadsNothing (get >>= f) s' := Shows.get_bind silent

theorem ReadsNothing.check_bind {x : SequencerM α} {r : Except Failure α} {f : α → SequencerM β}
    (checks : s.perform x = done (r, s)) (rest : ∀ a, r = .ok a → s.ReadsNothing (f a) s') :
    s.ReadsNothing (x >>= f) s' := Shows.check_bind checks rest

theorem Awaits.get_bind {f : Sequencer → SequencerM α} {post : List Wait → α → Sequencer → Prop}
    (awaits : s.Awaits limit (f s) ws post) : s.Awaits limit (get >>= f) ws post := Shows.get_bind awaits

theorem Awaits.check_bind {x : SequencerM α} {r : Except Failure α} {f : α → SequencerM β}
    {post : List Wait → β → Sequencer → Prop} (checks : s.perform x = done (r, s))
    (rest : ∀ a, r = .ok a → s.Awaits limit (f a) ws post) : s.Awaits limit (x >>= f) ws post :=
  Shows.check_bind checks rest

theorem awaits_pure {a : α} {post : List Wait → α → Sequencer → Prop} (holds : post [] a s) :
    s.Awaits limit (pure a) [] post :=
  shows_pure ⟨[], .none, holds⟩

theorem readsNothing_modify (s : Sequencer) (f : Sequencer → Sequencer) : s.ReadsNothing (modify f) (f s) := by
  rintro _ -
  exact ⟨rfl, rfl⟩

theorem readsNothing_writeWord (s : Sequencer) (word : Nat) (value : UInt32) :
    s.ReadsNothing (writeWord word value) s := by
  refine .get_bind ?_
  rintro _ -
  exact ⟨rfl, rfl⟩

theorem readsNothing_command (s : Sequencer) (value : UInt32) :
    s.ReadsNothing (command value) { s with lastCommand := some value } := by
  exact .get_bind ((readsNothing_writeWord s _ value).bind fun _ => readsNothing_modify s _)

theorem readsNothing_send (s : Sequencer) (d : Dispatcher) (make : UInt32 → Descriptor) {x : Attempt Unit}
    {asked : Except Failure UInt32} (sends : x.run = d.send make asked) : s.ReadsNothing (liftM x) s := by
  rw [ReadsNothing, Shows, perform_attempt, sends]
  cases asked <;> exact fun _ _ => ⟨rfl, rfl⟩

theorem readsNothing_pushRead (s : Sequencer) (d : Dispatcher) (source : UInt32) (len : Nat) :
    s.ReadsNothing (liftM (d.pushRead source len)) s := readsNothing_send s d _ (d.run_pushRead source len)

theorem readsNothing_pushWrite (s : Sequencer) (d : Dispatcher) (sink : UInt32) (len : Nat) :
    s.ReadsNothing (liftM (d.pushWrite sink len)) s := readsNothing_send s d _ (d.run_pushWrite sink len)

/-- A program that polls for what is watched, and what goes on record of it. -/
theorem awaits_program (s : Sequencer) (w : Watch) {p : Program PollOutcome}
    (polls : p.Shows fun as outcome => ∃ clock values, reads as = values.map (w.offset, ·) ∧
      Polled (s.limit.polls clock) w.ready values outcome) :
    s.Awaits s.limit (do
      let outcome ← liftM p
      return (⟨w.target, outcome⟩ : Wait)) [w] fun waits wait after => waits = [wait] ∧ after = s := by
  refine (shows_program polls).bind ?_
  rintro as outcome _ ⟨⟨clock, values, same, polled⟩, rfl⟩
  refine shows_pure ⟨_, ?_, rfl, rfl⟩
  rw [List.append_nil, same]
  exact .single polled

theorem awaits_poll (s : Sequencer) (w : Watch) :
    s.Awaits s.limit (do
      let outcome ← liftM (pollRegister s.limit w.offset w.ready)
      return (⟨w.target, outcome⟩ : Wait)) [w] fun waits wait after => waits = [wait] ∧ after = s := by
  refine awaits_program s w ((shows_pollRegister s.limit w.offset w.ready).mono ?_)
  rintro _ outcome ⟨clock, values, rfl, polled⟩
  exact ⟨clock, values, reads_map_read w.offset values, polled⟩

theorem awaits_waitIdle (s : Sequencer) :
    s.Awaits s.limit waitIdle [s.profile.idleWatch] fun waits wait after => waits = [wait] ∧ after = s :=
  awaits_poll s s.profile.idleWatch

theorem awaits_waitEngine (s : Sequencer) (d : Dispatcher) :
    s.Awaits s.limit (waitEngine d) [d.idleWatch] fun waits wait after => waits = [wait] ∧ after = s :=
  awaits_poll s d.idleWatch

/-- The writes on either side of the wait read nothing. -/
theorem awaits_resetEngine (s : Sequencer) (d : Dispatcher) :
    s.Awaits s.limit (resetEngine d) [d.resetWatch] fun waits wait after => waits = [wait] ∧ after = s := by
  have polls : (d.reset s.limit).Shows fun as outcome => ∃ clock values,
      reads as = values.map (d.resetWatch.offset, ·) ∧
        Polled (s.limit.polls clock) d.resetWatch.ready values outcome := by
    show Program.Shows ((pollRegister s.limit d.block.control d.resetWatch.ready).bind _) _
    refine (shows_pollRegister s.limit d.block.control d.resetWatch.ready).bind ?_
    rintro _ outcome ⟨clock, values, rfl, polled⟩
    refine ⟨clock, values, ?_, polled⟩
    show reads (values.map (.read d.block.control) ++ [.write _ _, .write _ _]) = _
    rw [reads_append, reads_map_read]
    exact List.append_nil _
  exact awaits_program s d.resetWatch polls

end Sequencer

/-- What a call waits for, in order. -/
def Call.watches (p : Profile) : Call → List Watch
  | reset =>
    (match p.dispatchers with
      | some pair => [(pair.engine .read).resetWatch, (pair.engine .write).resetWatch]
      | none => []) ++ [p.idleWatch]
  | loadWeights .. =>
    (match p.dispatchers with
      | some pair => [(pair.engine .read).idleWatch]
      | none => []) ++ [p.idleWatch]
  | finish =>
    (match p.dispatchers with
      | some pair => [(pair.engine .write).idleWatch]
      | none => []) ++ [p.idleWatch]
  | runIntegrated _ => [p.doneWatch]
  | arm .. | feed .. | execute .. | mac .. => []

namespace Sequencer

variable {s : Sequencer}

theorem awaits_reset (s : Sequencer) :
    s.Awaits s.limit reset (Call.reset.watches s.profile) fun waits report _ => report = ⟨.reset, waits⟩ := by
  refine .after (readsNothing_command s _) fun _ => .after (readsNothing_command _ _) fun _ => .get_bind ?_
  dsimp only [Call.watches]
  cases s.profile.dispatchers with
  | none =>
    dsimp only
    rw [pure_bind]
    refine .step (awaits_waitIdle _) fun idle => ?_
    exact .after (readsNothing_modify _ _) fun _ => awaits_pure rfl
  | some pair =>
    dsimp only
    refine .step (awaits_resetEngine _ _) fun read => .step (awaits_resetEngine _ _) fun write => ?_
    rw [pure_bind]
    refine .step (awaits_waitIdle _) fun idle => ?_
    exact .after (readsNothing_modify _ _) fun _ => awaits_pure rfl

theorem awaits_loadWeights (s : Sequencer) (weights : UInt32) (count : Nat) :
    s.Awaits s.limit (loadWeights weights count) ((Call.loadWeights weights count).watches s.profile)
      fun waits report _ => report = ⟨.loadWeights, waits⟩ := by
  refine .check_bind (perform_expectIdle s _) fun _ _ => ?_
  refine .check_bind (perform_dispatchers s) fun pair has => ?_
  refine .check_bind (perform_except s _) fun len _ => .get_bind ?_
  dsimp only [Call.watches]
  rw [need_ok.mp has]
  refine .after (readsNothing_command s _) fun _ => .after (readsNothing_pushRead _ _ _ _) fun _ => ?_
  refine .step (awaits_waitEngine _ _) fun fed => .step (awaits_waitIdle _) fun idle => ?_
  cases s.profile.block.weightLatch with
  | none => exact awaits_pure rfl
  | some latch =>
    refine .after (readsNothing_writeWord _ latch 1) fun _ => .after (readsNothing_writeWord _ latch 0) fun _ => ?_
    exact awaits_pure rfl

theorem awaits_finish (s : Sequencer) :
    s.Awaits s.limit finish (Call.finish.watches s.profile) fun waits report _ => report = ⟨.execute, waits⟩ := by
  refine .get_bind ?_
  cases s.activity with
  | idle | drainArmed => exact shows_throw _
  | executing count =>
    refine .check_bind (perform_dispatchers s) fun pair has => ?_
    dsimp only [Call.watches]
    rw [need_ok.mp has]
    refine .step (awaits_waitEngine _ _) fun drained => .step (awaits_waitIdle _) fun idle => ?_
    exact .after (readsNothing_modify _ _) fun _ => awaits_pure rfl

theorem awaits_runIntegrated (s : Sequencer) (t : Transfer) :
    s.Awaits s.limit (runIntegrated t) ((Call.runIntegrated t).watches s.profile)
      fun waits report _ => report = ⟨.execute, waits⟩ := by
  refine .check_bind (perform_require s _ _) fun dma has => ?_
  refine .check_bind (perform_except s _) fun _ _ => .get_bind ?_
  have started : s.Awaits s.limit
      (do
        writeWord dma.readAddress t.source
        writeWord dma.readLength t.readWords
        writeWord dma.writeAddress t.sink
        command s.profile.block.execute
        writeWord dma.writeControl
          (IntegratedDma.startWrite ||| IntegratedDma.startRead ||| t.writeWords)
        let outcome ← pollWord s.profile.block.status fun value =>
          value &&& IntegratedDma.doneMask == IntegratedDma.doneMask
        return (⟨.execute, [⟨.dma .integrated, outcome⟩]⟩ : WaitReport))
      [s.profile.doneWatch] fun waits report _ => report = ⟨.execute, waits⟩ := by
    refine .after (readsNothing_writeWord s _ _) fun _ => .after (readsNothing_writeWord s _ _) fun _ => ?_
    refine .after (readsNothing_writeWord s _ _) fun _ => .after (readsNothing_command s _) fun _ => ?_
    refine .after (readsNothing_writeWord _ _ _) fun _ => ?_
    have polls := shows_pollRegister s.limit s.profile.doneWatch.offset s.profile.doneWatch.ready
    refine Shows.bind (Shows.get_bind (shows_program polls)) ?_
    rintro _ outcome _ ⟨⟨clock, values, rfl, polled⟩, rfl⟩
    refine shows_pure ⟨_, ?_, rfl⟩
    rw [List.append_nil, reads_map_read]
    exact .single polled
  dsimp only
  cases s.profile.block.rowCount with
  | none => exact started
  | some word => exact .after (readsNothing_writeWord s _ _) fun _ => started

theorem readsNothing_arm (s : Sequencer) (outputs : UInt32) (count : Nat) :
    s.ReadsNothing (arm outputs count) { s with activity := .drainArmed count } := by
  refine .check_bind (perform_expectIdle s _) fun _ _ => ?_
  refine .check_bind (perform_dispatchers s) fun pair has => ?_
  refine .check_bind (perform_except s _) fun len _ => ?_
  exact (readsNothing_pushWrite s _ outputs len).bind fun _ => readsNothing_modify _ _

theorem readsNothing_feed (s : Sequencer) (inputs : UInt32) (count : Nat) :
    s.ReadsNothing (feed inputs count)
      { s with lastCommand := some s.profile.block.execute, activity := .executing count } := by
  refine .get_bind ?_
  cases s.activity with
  | idle | executing => exact shows_throw _
  | drainArmed armed =>
    dsimp only
    split
    · refine .check_bind (perform_dispatchers s) fun pair has => ?_
      refine .check_bind (perform_except s _) fun len _ => .get_bind ?_
      cases s.profile.block.rowCount with
      | none =>
        refine (readsNothing_command s _).bind fun _ => ?_
        exact (readsNothing_pushRead _ _ inputs len).bind fun _ => readsNothing_modify _ _
      | some word =>
        dsimp only
        split
        · refine (readsNothing_writeWord s _ _).bind fun _ => (readsNothing_command s _).bind fun _ => ?_
          exact (readsNothing_pushRead _ _ inputs len).bind fun _ => readsNothing_modify _ _
        · exact shows_throw _
    · exact shows_throw _

theorem readsNothing_execute (s : Sequencer) (inputs outputs : UInt32) (count : Nat) :
    s.ReadsNothing (execute inputs outputs count)
      { s with lastCommand := some s.profile.block.execute, activity := .executing count } :=
  (readsNothing_arm s outputs count).bind fun _ => readsNothing_feed _ inputs count

end Sequencer

end Systolic
