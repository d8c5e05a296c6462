import Systolic.Proofs.Issue
import Systolic.Sequencer.Call

namespace Systolic

namespace Sequencer

open Program

variable {α β : Type}

/-- A call as a program: it ends with what the call gave and with the sequencer as the call left it. -/
def perform (s : Sequencer) (x : SequencerM α) : Program (Except Failure α × Sequencer) := x.run.run s

theorem perform_bind (s : Sequencer) (x : SequencerM α) (f : α → SequencerM β) :
    s.perform (x >>= f) = (s.perform x).bind fun
      | (.ok a, s') => s'.perform (f a)
      | (.error e, s') => done (.error e, s') := by
  show (_ : Program _).bind _ = _
  congr 1
  funext r
  obtain ⟨_ | _, _⟩ := r <;> rfl

theorem perform_bind_ok {s s' : Sequencer} {x : SequencerM α} {a : α} (f : α → SequencerM β)
    (gives : s.perform x = done (.ok a, s')) : s.perform (x >>= f) = s'.perform (f a) := by
  rw [perform_bind, gives]
  rfl

theorem perform_bind_error {s s' : Sequencer} {x : SequencerM α} {e : Failure} (f : α → SequencerM β)
    (fails : s.perform x = done (.error e, s')) : s.perform (x >>= f) = done (.error e, s') := by
  rw [perform_bind, fails]
  rfl

theorem perform_get (s : Sequencer) : s.perform get = done (.ok s, s) := rfl

theorem perform_except (s : Sequencer) (r : Except Failure α) : s.perform (liftM r) = done (r, s) := rfl

theorem perform_program (s : Sequencer) (p : Program α) :
    s.perform (liftM p) = p.bind fun a => done (.ok a, s) := by
  show (p.bind fun a => done (Except.ok a)).bind (fun r => done (r, s)) = _
  rw [Program.bind_assoc]
  rfl

theorem perform_attempt (s : Sequencer) (x : Attempt α) :
    s.perform (liftM x) = x.run.bind fun r => done (r, s) := rfl

theorem perform_attempt_bind (s : Sequencer) (x : Attempt α) (f : α → SequencerM β) :
    s.perform (liftM x >>= f) = x.run.bind fun
      | .ok a => s.perform (f a)
      | .error e => done (.error e, s) := by
  rw [perform_bind, perform_attempt, Program.bind_assoc]
  congr 1
  funext r
  cases r <;> rfl

theorem perform_bind_passes {s : Sequencer} {x : SequencerM α} {r : Except Failure α} {a : α}
    (f : α → SequencerM β) (checks : s.perform x = done (r, s)) (passes : r = .ok a) :
    s.perform (x >>= f) = s.perform (f a) :=
  perform_bind_ok f (passes ▸ checks)

theorem perform_bind_fails {s : Sequencer} {x : SequencerM α} {r : Except Failure α} {e : Failure}
    (f : α → SequencerM β) (checks : s.perform x = done (r, s)) (fails : r = .error e) :
    s.perform (x >>= f) = done (.error e, s) :=
  perform_bind_error f (fails ▸ checks)

/-- The part of the board that a call needs, or what the board lacks. -/
def need (s : Sequencer) (feature : String) (part : Profile → Option α) : Except Failure α :=
  match part s.profile with
  | some a => .ok a
  | none => .error (.unsupported s.profile.name feature)

theorem perform_require (s : Sequencer) (feature : String) (part : Profile → Option α) :
    s.perform (require feature part) = done (s.need feature part, s) := by
  unfold require need
  rw [perform_bind_ok _ (perform_get s)]
  dsimp only
  cases part s.profile <;> rfl

theorem need_ok {s : Sequencer} {feature : String} {part : Profile → Option α} {a : α} :
    s.need feature part = .ok a ↔ part s.profile = some a := by
  unfold need
  cases part s.profile <;> simp

def needDispatchers (s : Sequencer) : Except Failure Dispatchers :=
  s.need "streaming dispatchers" Profile.dispatchers

theorem perform_dispatchers (s : Sequencer) :
    s.perform dispatchers = done (s.needDispatchers, s) := perform_require s _ _

def needIdle (s : Sequencer) (disorder : Activity → Disorder) : Except Failure Unit :=
  if s.activity = .idle then .ok () else .error (.invalidState (disorder s.activity))

theorem perform_expectIdle (s : Sequencer) (disorder : Activity → Disorder) :
    s.perform (expectIdle disorder) = done (s.needIdle disorder, s) := by
  unfold expectIdle needIdle
  rw [perform_bind_ok _ (perform_get s)]
  dsimp only
  split <;> rfl

theorem needIdle_ok {s : Sequencer} {disorder : Activity → Disorder} :
    s.needIdle disorder = .ok () ↔ s.activity = .idle := by
  unfold needIdle
  split <;> simp_all

theorem transferLength_ok {count each len : Nat} :
    transferLength count each = .ok len ↔
      0 < count ∧ count * each < UInt32.size ∧ len = count * each := by
  unfold transferLength
  by_cases none : count = 0
  · rw [if_pos none]
    constructor
    · intro fails
      nomatch fails
    · rintro ⟨positive, -⟩
      omega
  · rw [if_neg none]
    by_cases fits : count * each < UInt32.size
    · rw [if_pos fits]
      constructor
      · intro same
        exact ⟨by omega, fits, (Except.ok.inj same).symm⟩
      · rintro ⟨-, -, rfl⟩
        rfl
    · rw [if_neg fits]
      constructor
      · intro fails
        nomatch fails
      · rintro ⟨-, small, -⟩
        exact absurd small fits

/-- Whatever is read, the call makes exactly these writes, does not fail, and leaves the sequencer
as `s'`. -/
def Issues (s : Sequencer) (x : SequencerM α) (ws : List Write) (s' : Sequencer) : Prop :=
  (s.perform x).Issues ws fun r => ∃ a, r = (.ok a, s')

theorem Issues.bind {s s₁ s₂ : Sequencer} {x : SequencerM α} {f : α → SequencerM β}
    {ws more : List Write} (first : s.Issues x ws s₁) (rest : ∀ a, s₁.Issues (f a) more s₂) :
    s.Issues (x >>= f) (ws ++ more) s₂ := by
  rw [Issues, perform_bind]
  refine Program.Issues.bind first ?_
  rintro _ ⟨a, rfl⟩
  exact rest a

theorem Issues.get_bind {s s' : Sequencer} {f : Sequencer → SequencerM α} {ws : List Write}
    (issues : s.Issues (f s) ws s') : s.Issues (get >>= f) ws s' := by
  rw [Issues, perform_bind_ok f (perform_get s)]
  exact issues

theorem Issues.check_bind {s s' : Sequencer} {x : SequencerM α} {r : Except Failure α} {a : α}
    {f : α → SequencerM β} {ws : List Write} (checks : s.perform x = done (r, s)) (passes : r = .ok a)
    (issues : s.Issues (f a) ws s') : s.Issues (x >>= f) ws s' := by
  rw [Issues, perform_bind_passes f checks passes]
  exact issues

theorem issues_pure (s : Sequencer) (a : α) : s.Issues (pure a) [] s := ⟨rfl, a, rfl⟩

theorem issues_map {s s' : Sequencer} {x : SequencerM α} {ws : List Write} (f : α → β)
    (issues : s.Issues x ws s') : s.Issues (f <$> x) ws s' := by
  rw [map_eq_pure_bind]
  simpa using issues.bind fun a => issues_pure s' (f a)

theorem issues_modify (s : Sequencer) (f : Sequencer → Sequencer) : s.Issues (modify f) [] (f s) :=
  ⟨rfl, (), rfl⟩

theorem issues_program (s : Sequencer) {p : Program α} {ws : List Write} {post : α → Prop}
    (issues : p.Issues ws post) : s.Issues (liftM p) ws s := by
  rw [Issues, perform_program, ← ws.append_nil]
  exact issues.bind fun a _ => ⟨rfl, a, rfl⟩

theorem issues_writeWord (s : Sequencer) (word : Nat) (value : UInt32) :
    s.Issues (writeWord word value) [(s.profile.block.offset word, value)] s := by
  exact .get_bind (issues_program s (issues_writeRegister _ _))

theorem issues_command (s : Sequencer) (value : UInt32) :
    s.Issues (command value) [(s.profile.block.offset s.profile.block.control, value)]
      { s with lastCommand := some value } := by
  exact .get_bind ((issues_writeWord s _ value).bind fun _ => issues_modify s _)

theorem issues_pollWord (s : Sequencer) (word : Nat) (ready : UInt32 → Bool) :
    s.Issues (pollWord word ready) [] s := by
  exact .get_bind (issues_program s (issues_pollRegister _ _ _))

theorem issues_waitIdle (s : Sequencer) : s.Issues waitIdle [] s := by
  exact .get_bind ((issues_pollWord s _ _).bind fun _ => issues_pure s _)

theorem issues_waitEngine (s : Sequencer) (d : Dispatcher) : s.Issues (waitEngine d) [] s := by
  exact .get_bind ((issues_program s (issues_pollRegister _ _ _)).bind fun _ => issues_pure s _)

end Sequencer

namespace Dispatcher

open Program

def resetWrites (d : Dispatcher) : List Write :=
  [(d.block.control, Csr.reset), (d.block.status, Csr.clearAll), (d.block.control, 0)]

def pushWrites (d : Dispatcher) (descriptor : Descriptor) : List Write :=
  descriptor.words.map fun word => (d.block.descriptor + word.1, word.2)

theorem issues_reset (d : Dispatcher) (limit : PollLimit) :
    (d.reset limit).Issues d.resetWrites fun _ => True :=
  (issues_writeRegister _ _).bind fun _ _ => (issues_pollRegister limit _ _).bind fun _ _ =>
    (issues_writeRegister _ _).bind fun _ _ => (issues_writeRegister _ _).bind fun _ _ => ⟨rfl, trivial⟩

theorem issues_push (d : Dispatcher) (descriptor : Descriptor) :
    (d.push descriptor).Issues (d.pushWrites descriptor) fun _ => True :=
  (issues_writeRegister _ _).bind fun _ _ => (issues_writeRegister _ _).bind fun _ _ =>
    (issues_writeRegister _ _).bind fun _ _ => (issues_writeRegister _ _).bind fun _ _ => ⟨rfl, trivial⟩

/-- What a push asks before it touches a register: the length as a word, if the engine is the right one. -/
def pushLength (d : Dispatcher) (wanted : Direction) (len : Nat) : Except Failure UInt32 := do
  d.expect wanted
  lengthWord len

/-- Hands over the descriptor made with a length, if there is a length. -/
def send (d : Dispatcher) (make : UInt32 → Descriptor) :
    Except Failure UInt32 → Program (Except Failure Unit)
  | .ok length => (d.push (make length)).bind fun _ => done (.ok ())
  | .error e => done (.error e)

theorem issues_send (d : Dispatcher) (make : UInt32 → Descriptor) (length : UInt32) :
    (d.send make (.ok length)).Issues (d.pushWrites (make length)) fun r => r = .ok () := by
  rw [← List.append_nil (pushWrites ..)]
  exact (d.issues_push _).bind fun _ _ => ⟨rfl, rfl⟩

theorem run_pushRead (d : Dispatcher) (source : UInt32) (len : Nat) :
    (d.pushRead source len).run = d.send (.readStream d.flags source) (d.pushLength .read len) := by
  unfold pushRead pushLength
  cases d.expect .read with
  | error e => rfl
  | ok _ => cases lengthWord len <;> rfl

theorem run_pushWrite (d : Dispatcher) (sink : UInt32) (len : Nat) :
    (d.pushWrite sink len).run = d.send (.writeStream d.flags sink) (d.pushLength .write len) := by
  unfold pushWrite pushLength
  cases d.expect .write with
  | error e => rfl
  | ok _ => cases lengthWord len <;> rfl

theorem pushLength_engine (pair : Dispatchers) (direction : Direction) {len : Nat} (positive : 0 < len)
    (fits : len < UInt32.size) :
    (pair.engine direction).pushLength direction len = .ok (UInt32.ofNat len) := by
  have nonzero : len ≠ 0 := by omega
  simp only [pushLength, expect, lengthWord, Dispatchers.engine, if_true, if_neg nonzero, if_pos fits]
  rfl

end Dispatcher

namespace Sequencer

open Program

variable {α β : Type}

theorem issues_resetEngine (s : Sequencer) (d : Dispatcher) :
    s.Issues (resetEngine d) d.resetWrites s := by
  rw [← d.resetWrites.append_nil]
  exact .get_bind ((issues_program s (d.issues_reset s.limit)).bind fun _ => issues_pure s _)

theorem issues_send (s : Sequencer) (d : Dispatcher) (make : UInt32 → Descriptor) {x : Attempt Unit}
    {asked : Except Failure UInt32} {length : UInt32} (sends : x.run = d.send make asked)
    (passes : asked = .ok length) : s.Issues (liftM x) (d.pushWrites (make length)) s := by
  rw [Issues, perform_attempt, sends, passes, ← List.append_nil (Dispatcher.pushWrites ..)]
  refine (d.issues_send make length).bind ?_
  rintro _ rfl
  exact ⟨rfl, (), rfl⟩

theorem issues_pushRead (s : Sequencer) (pair : Dispatchers) (source : UInt32) {len : Nat}
    (positive : 0 < len) (fits : len < UInt32.size) :
    s.Issues (liftM ((pair.engine .read).pushRead source len))
      ((pair.engine .read).pushWrites (.readStream pair.flags source (UInt32.ofNat len))) s :=
  issues_send s _ _ (Dispatcher.run_pushRead _ source len)
    (Dispatcher.pushLength_engine pair .read positive fits)

theorem issues_pushWrite (s : Sequencer) (pair : Dispatchers) (sink : UInt32) {len : Nat}
    (positive : 0 < len) (fits : len < UInt32.size) :
    s.Issues (liftM ((pair.engine .write).pushWrite sink len))
      ((pair.engine .write).pushWrites (.writeStream pair.flags sink (UInt32.ofNat len))) s :=
  issues_send s _ _ (Dispatcher.run_pushWrite _ sink len)
    (Dispatcher.pushLength_engine pair .write positive fits)

def resetWrites (p : Profile) : List Write :=
  [(p.block.offset p.block.control, ControlBlock.idle), (p.block.offset p.block.control, ControlBlock.idle)] ++
    match p.dispatchers with
    | some pair => (pair.engine .read).resetWrites ++ (pair.engine .write).resetWrites
    | none => []

theorem issues_reset (s : Sequencer) :
    s.Issues reset (resetWrites s.profile)
      { s with lastCommand := some ControlBlock.idle, activity := .idle } := by
  unfold reset resetWrites
  refine (issues_command s ControlBlock.idle).bind fun _ => ?_
  refine (issues_command _ ControlBlock.idle).bind fun _ => .get_bind ?_
  dsimp only
  cases s.profile.dispatchers with
  | none =>
    refine (issues_waitIdle _).bind fun _ => ?_
    exact (issues_modify _ _).bind fun _ => issues_pure _ _
  | some pair =>
    dsimp only
    rw [← List.append_nil (pair.engine .write).resetWrites]
    refine (issues_resetEngine _ _).bind fun _ => (issues_resetEngine _ _).bind fun _ => ?_
    refine (issues_waitIdle _).bind fun _ => ?_
    exact (issues_modify _ _).bind fun _ => issues_pure _ _

def loadWrites (p : Profile) (pair : Dispatchers) (weights : UInt32) (count : Nat) : List Write :=
  (p.block.offset p.block.control, p.block.loadWeights) ::
    ((pair.engine .read).pushWrites (.readStream pair.flags weights (UInt32.ofNat (count * 64))) ++
      match p.block.weightLatch with
      | some latch => [(p.block.offset latch, 1), (p.block.offset latch, 0)]
      | none => [])

theorem issues_loadWeights {s : Sequencer} {pair : Dispatchers} {count : Nat} (weights : UInt32)
    (idle : s.activity = .idle) (streams : s.profile.dispatchers = some pair) (positive : 0 < count)
    (fits : count * 64 < UInt32.size) :
    s.Issues (loadWeights weights count) (loadWrites s.profile pair weights count)
      { s with lastCommand := some s.profile.block.loadWeights } := by
  unfold loadWeights loadWrites
  refine .check_bind (perform_expectIdle s _) (needIdle_ok.mpr idle) ?_
  refine .check_bind (perform_dispatchers s) (need_ok.mpr streams) ?_
  refine .check_bind (perform_except s _) (transferLength_ok.mpr ⟨positive, fits, rfl⟩) (.get_bind ?_)
  refine (issues_command s _).bind fun _ => ?_
  refine (issues_pushRead _ pair weights (by omega) fits).bind fun _ => ?_
  refine (issues_waitEngine _ _).bind fun _ => (issues_waitIdle _).bind fun _ => ?_
  dsimp only
  cases s.profile.block.weightLatch with
  | none => exact issues_pure _ _
  | some latch =>
    refine (issues_writeWord _ latch 1).bind fun _ => ?_
    exact (issues_writeWord _ latch 0).bind fun _ => issues_pure _ _

def armWrites (pair : Dispatchers) (outputs : UInt32) (count : Nat) : List Write :=
  (pair.engine .write).pushWrites (.writeStream pair.flags outputs (UInt32.ofNat (count * 256)))

theorem issues_arm {s : Sequencer} {pair : Dispatchers} {count : Nat} (outputs : UInt32)
    (idle : s.activity = .idle) (streams : s.profile.dispatchers = some pair) (positive : 0 < count)
    (fits : count * 256 < UInt32.size) :
    s.Issues (arm outputs count) (armWrites pair outputs count)
      { s with activity := .drainArmed count } := by
  unfold arm
  rw [← (armWrites pair outputs count).append_nil]
  refine .check_bind (perform_expectIdle s _) (needIdle_ok.mpr idle) ?_
  refine .check_bind (perform_dispatchers s) (need_ok.mpr streams) ?_
  refine .check_bind (perform_except s _) (transferLength_ok.mpr ⟨positive, fits, rfl⟩) ?_
  exact (issues_pushWrite s pair outputs (by omega) fits).bind fun _ => issues_modify _ _

def feedWrites (p : Profile) (pair : Dispatchers) (inputs : UInt32) (count : Nat) : List Write :=
  (match p.block.rowCount with
    | some rows => [(p.block.offset rows, UInt32.ofNat (8 * count))]
    | none => []) ++
  (p.block.offset p.block.control, p.block.execute) ::
    (pair.engine .read).pushWrites (.readStream pair.flags inputs (UInt32.ofNat (count * 64)))

theorem issues_feed {s : Sequencer} {pair : Dispatchers} {count : Nat} (inputs : UInt32)
    (armed : s.activity = .drainArmed count) (streams : s.profile.dispatchers = some pair)
    (positive : 0 < count) (fits : count * 64 < UInt32.size) :
    s.Issues (feed inputs count) (feedWrites s.profile pair inputs count)
      { s with lastCommand := some s.profile.block.execute, activity := .executing count } := by
  have rows : 8 * count < UInt32.size := by omega
  unfold feed feedWrites
  refine .get_bind ?_
  rw [armed]
  dsimp only
  rw [if_pos rfl]
  refine .check_bind (perform_dispatchers s) (need_ok.mpr streams) ?_
  refine .check_bind (perform_except s _) (transferLength_ok.mpr ⟨positive, fits, rfl⟩) (.get_bind ?_)
  rw [← List.append_nil (Dispatcher.pushWrites ..)]
  cases s.profile.block.rowCount with
  | none =>
    refine (issues_command s _).bind fun _ => ?_
    exact (issues_pushRead _ pair inputs (by omega) fits).bind fun _ => issues_modify _ _
  | some word =>
    dsimp only
    rw [if_pos rows]
    refine (issues_writeWord s _ _).bind fun _ => (issues_command s _).bind fun _ => ?_
    exact (issues_pushRead _ pair inputs (by omega) fits).bind fun _ => issues_modify _ _

theorem issues_execute {s : Sequencer} {pair : Dispatchers} {count : Nat} (inputs outputs : UInt32)
    (idle : s.activity = .idle) (streams : s.profile.dispatchers = some pair) (positive : 0 < count)
    (fits : count * 256 < UInt32.size) :
    s.Issues (execute inputs outputs count)
      (armWrites pair outputs count ++ feedWrites s.profile pair inputs count)
      { s with lastCommand := some s.profile.block.execute, activity := .executing count } :=
  (issues_arm outputs idle streams positive fits).bind fun _ =>
    issues_feed inputs rfl streams positive (by omega)

theorem issues_finish {s : Sequencer} {pair : Dispatchers} {count : Nat}
    (executing : s.activity = .executing count) (streams : s.profile.dispatchers = some pair) :
    s.Issues finish [] { s with activity := .idle } := by
  unfold finish
  refine .get_bind ?_
  rw [executing]
  refine .check_bind (perform_dispatchers s) (need_ok.mpr streams) ?_
  refine (issues_waitEngine s _).bind fun _ => (issues_waitIdle s).bind fun _ => ?_
  exact (issues_modify _ _).bind fun _ => issues_pure _ _

def transferWrites (p : Profile) (dma : IntegratedDma) (t : Transfer) : List Write :=
  (match p.block.rowCount with
    | some rows => [(p.block.offset rows, t.rows)]
    | none => []) ++
  [(p.block.offset dma.readAddress, t.source), (p.block.offset dma.readLength, t.readWords),
    (p.block.offset dma.writeAddress, t.sink), (p.block.offset p.block.control, p.block.execute),
    (p.block.offset dma.writeControl,
      IntegratedDma.startWrite ||| IntegratedDma.startRead ||| t.writeWords)]

theorem issues_runIntegrated {s : Sequencer} {dma : IntegratedDma} {t : Transfer}
    (has : s.profile.integrated = some dma) (good : t.check = .ok ()) :
    s.Issues (runIntegrated t) (transferWrites s.profile dma t)
      { s with lastCommand := some s.profile.block.execute } := by
  unfold runIntegrated transferWrites
  refine .check_bind (perform_require s _ _) (need_ok.mpr has) ?_
  refine .check_bind (perform_except s _) good (.get_bind ?_)
  have started : s.Issues
      (do
        writeWord dma.readAddress t.source
        writeWord dma.readLength t.readWords
        writeWord dma.writeAddress t.sink
        command s.profile.block.execute
        writeWord dma.writeControl
          (IntegratedDma.startWrite ||| IntegratedDma.startRead ||| t.writeWords)
        let outcome ← pollWord s.profile.block.status fun value =>
          value &&& IntegratedDma.doneMask == IntegratedDma.doneMask
        return (⟨.execute, [⟨.dma .integrated, outcome⟩]⟩ : WaitReport))
      _ { s with lastCommand := some s.profile.block.execute } :=
    (issues_writeWord s _ _).bind fun _ => (issues_writeWord s _ _).bind fun _ =>
      (issues_writeWord s _ _).bind fun _ => (issues_command s _).bind fun _ =>
        (issues_writeWord _ _ _).bind fun _ => (issues_pollWord _ _ _).bind fun _ => issues_pure _ _
  dsimp only
  cases s.profile.block.rowCount with
  | none => exact started
  | some word => exact (issues_writeWord s _ _).bind fun _ => started

def macWrites (p : Profile) (block : MacBlock) (weight x y : Int32) : List Write :=
  [(p.block.offset block.xIn, weight.toUInt32), (p.block.offset block.control, MacBlock.loadWeight),
    (p.block.offset block.control, 0), (p.block.offset block.xIn, x.toUInt32),
    (p.block.offset block.yIn, y.toUInt32), (p.block.offset block.control, MacBlock.valid),
    (p.block.offset block.control, 0)]

theorem issues_readWord (s : Sequencer) (word : Nat) : s.Issues (readWord word) [] s := by
  have issues : (readRegister (s.profile.block.offset word)).Issues [] fun _ => True :=
    fun _ => ⟨rfl, trivial⟩
  exact .get_bind (issues_program s issues)

theorem issues_mac {s : Sequencer} {block : MacBlock} (weight x y : Int32)
    (has : s.profile.mac = some block) :
    s.Issues (mac weight x y) (macWrites s.profile block weight x y) s := by
  unfold mac
  refine .check_bind (perform_require s _ _) (need_ok.mpr has) ?_
  refine (issues_writeWord s _ _).bind fun _ => (issues_writeWord s _ _).bind fun _ => ?_
  refine (issues_writeWord s _ _).bind fun _ => (issues_writeWord s _ _).bind fun _ => ?_
  refine (issues_writeWord s _ _).bind fun _ => (issues_writeWord s _ _).bind fun _ => ?_
  exact (issues_writeWord s _ _).bind fun _ => (issues_readWord s _).bind fun _ => issues_pure s _

end Sequencer

end Systolic
