import Systolic.Proofs.Monitor
import Systolic.Proofs.Outcome

namespace Systolic

open Sequencer Program

variable {σ α β : Type}

namespace EngineBlock

/-- The words of an engine's descriptor. -/
def slots (b : EngineBlock) : List Nat :=
  [b.descriptor, b.descriptor + 4, b.descriptor + 8, b.descriptor + Descriptor.controlSlot]

def words (b : EngineBlock) : List Nat := b.status :: b.control :: b.slots

end EngineBlock

namespace Profile

variable (p : Profile)

def engines : List EngineBlock :=
  match p.dispatchers with
  | some pair => [pair.read, pair.write]
  | none => []

/-- Where the board says how it stands and gives its results. -/
def boardOffsets : List Nat :=
  (p.block.status :: (p.mac.map MacBlock.yOut).toList).map p.block.offset

def controlOffsets : List Nat := p.engines.map EngineBlock.control

def latchOffsets : List Nat := p.block.weightLatch.toList.map p.block.offset

/-- What a host reads. -/
def readOffsets : List Nat := p.boardOffsets ++ p.controlOffsets ++ p.engines.map EngineBlock.status

/-- What a host writes as it likes. -/
def freeOffsets : List Nat :=
  ([p.block.control] ++ p.block.rowCount.toList ++
    (p.integrated.map fun d => [d.readAddress, d.readLength, d.writeAddress, d.writeControl]).getD [] ++
    (p.mac.map fun m => [m.control, m.xIn, m.yIn]).getD []).map p.block.offset ++
  p.engines.flatMap fun b => b.status :: b.slots

/-- What a host does to a board while the latch is low and while it is raised. To the control of an engine it writes
a reset or nothing at all, and once raised the latch is lowered before anything else is done. -/
inductive Permits : Rules Bool
  | read {offset : Nat} (member : offset ∈ p.readOffsets) (value : UInt32) : Permits false (.read offset value) false
  | write {offset : Nat} (member : offset ∈ p.freeOffsets) (value : UInt32) :
      Permits false (.write offset value) false
  | control {offset : Nat} {value : UInt32} (member : offset ∈ p.controlOffsets)
      (harmless : value = Csr.reset ∨ value = 0) : Permits false (.write offset value) false
  | raise {offset : Nat} (member : offset ∈ p.latchOffsets) : Permits false (.write offset 1) true
  | lower {offset : Nat} (member : offset ∈ p.latchOffsets) : Permits true (.write offset 0) false

variable {p} {pair : Dispatchers}

theorem mem_engines (streams : p.dispatchers = some pair) (direction : Direction) :
    pair.block direction ∈ p.engines := by
  unfold engines
  rw [streams]
  cases direction <;> simp [Dispatchers.block]

theorem mem_slots (b : EngineBlock) (i : Fin 4) : b.descriptor + 4 * i.val ∈ b.slots := by
  have cases : i.val = 0 ∨ i.val = 1 ∨ i.val = 2 ∨ i.val = 3 := by omega
  rcases cases with h | h | h | h <;> simp [EngineBlock.slots, Descriptor.controlSlot, h]

/-- The words of an engine other than its control. -/
theorem free_of_engine (streams : p.dispatchers = some pair) (direction : Direction) {offset : Nat}
    (word : offset = (pair.block direction).status ∨ offset ∈ (pair.block direction).slots) :
    offset ∈ p.freeOffsets :=
  List.mem_append_right _ (List.mem_flatMap.mpr ⟨_, mem_engines streams direction, List.mem_cons.mpr word⟩)

theorem control_of_engine (streams : p.dispatchers = some pair) (direction : Direction) :
    (pair.block direction).control ∈ p.controlOffsets :=
  List.mem_map_of_mem (mem_engines streams direction)

end Profile

namespace Program

variable {p : Profile} {offset : Nat} {value : UInt32}

/-- Whatever is read, the program does to the board what hosts do, from a low latch to a low latch. -/
def Harmless (p : Profile) (x : Program α) : Prop := x.Follows p.Permits false fun raised _ => raised = false

theorem Harmless.bind {x : Program α} {f : α → Program β} (first : x.Harmless p) (rest : ∀ a, (f a).Harmless p) :
    (x.bind f).Harmless p :=
  Follows.still first rest

theorem harmless_done (a : α) : (done a).Harmless p := rfl

theorem harmless_read (member : offset ∈ p.readOffsets) : (readRegister offset).Harmless p :=
  fun value => ⟨false, .read member value, rfl⟩

theorem harmless_poll (member : offset ∈ p.readOffsets) (limit : PollLimit) (ready : UInt32 → Bool) :
    (pollRegister limit offset ready).Harmless p :=
  follows_pollRegister (.read member) limit ready

theorem harmless_write (member : offset ∈ p.freeOffsets) (value : UInt32) : (writeRegister offset value).Harmless p :=
  follows_writeRegister (.write member value)

theorem harmless_control (member : offset ∈ p.controlOffsets) (harmless : value = Csr.reset ∨ value = 0) :
    (writeRegister offset value).Harmless p :=
  follows_writeRegister (.control member harmless)

section Dispatchers

variable {pair : Dispatchers} (streams : p.dispatchers = some pair) (direction : Direction)
include streams

theorem harmless_waitIdle (limit : PollLimit) : ((pair.engine direction).waitIdle limit).Harmless p := by
  have status : (pair.block direction).status ∈ p.readOffsets :=
    List.mem_append_right _ (List.mem_map_of_mem (Profile.mem_engines streams direction))
  exact harmless_poll status limit _

theorem harmless_reset (limit : PollLimit) : ((pair.engine direction).reset limit).Harmless p := by
  have control := Profile.control_of_engine streams direction
  have read : (pair.block direction).control ∈ p.readOffsets :=
    List.mem_append_left _ (List.mem_append_right _ control)
  have status := Profile.free_of_engine streams direction (.inl rfl)
  refine (harmless_control control (.inl rfl)).bind fun _ => (harmless_poll read limit _).bind fun _ => ?_
  exact (harmless_write status _).bind fun _ => (harmless_control control (.inr rfl)).bind fun _ => harmless_done _

theorem harmless_push (d : Descriptor) : ((pair.engine direction).push d).Harmless p := by
  have word : ∀ (i : Fin 4) value, (writeRegister ((pair.block direction).descriptor + 4 * i.val) value).Harmless p := by
    intro i value
    exact harmless_write (Profile.free_of_engine streams direction (.inr (Profile.mem_slots _ i))) value
  refine (word 0 _).bind fun _ => (word 1 _).bind fun _ => ?_
  exact (word 2 _).bind fun _ => (word 3 _).bind fun _ => harmless_done _

theorem harmless_send (make : UInt32 → Descriptor) (asked : Except Failure UInt32) :
    ((pair.engine direction).send make asked).Harmless p := by
  cases asked with
  | error e => exact harmless_done _
  | ok length => exact (harmless_push streams direction (make length)).bind fun _ => harmless_done _

end Dispatchers

end Program

namespace Sequencer

variable {p : Profile}

/-- Whatever a sequencer of the board holds, the call does to the board what hosts do, from a low latch to a low latch,
whether it fails or not. -/
def Lawful (p : Profile) (x : SequencerM α) : Prop :=
  ∀ s : Sequencer, s.profile = p → (s.perform x).Follows p.Permits false fun raised r =>
    raised = false ∧ r.2.profile = p

section Rules

variable {x : SequencerM α}

theorem Lawful.bind {f : α → SequencerM β} (first : Lawful p x) (rest : ∀ a, Lawful p (f a)) : Lawful p (x >>= f) := by
  intro s drives
  rw [perform_bind]
  refine (first s drives).bind ?_
  rintro _ ⟨_ | a, s'⟩ ⟨rfl, kept⟩
  · exact ⟨rfl, kept⟩
  · exact rest a s' kept

theorem Lawful.get_bind {f : Sequencer → SequencerM α} (rest : ∀ s, s.profile = p → Lawful p (f s)) :
    Lawful p (get >>= f) := by
  intro s drives
  rw [perform_bind_ok f (perform_get s)]
  exact rest s drives s drives

/-- What comes after a check comes only with what the check found. -/
theorem Lawful.check_bind {r : Sequencer → Except Failure α} {f : α → SequencerM β}
    (checks : ∀ s, s.perform x = done (r s, s)) (rest : ∀ s a, s.profile = p → r s = .ok a → Lawful p (f a)) :
    Lawful p (x >>= f) := by
  intro s drives
  cases found : r s with
  | error e =>
    rw [perform_bind_error f ((checks s).trans (by rw [found]))]
    exact ⟨rfl, drives⟩
  | ok a =>
    rw [perform_bind_ok f ((checks s).trans (by rw [found]))]
    exact rest s a drives found s drives

theorem Lawful.require_bind {feature : String} {part : Profile → Option α} {f : α → SequencerM β}
    (rest : ∀ a, part p = some a → Lawful p (f a)) : Lawful p (require feature part >>= f) := by
  refine Lawful.check_bind (fun s => perform_require s feature part) ?_
  rintro s a rfl has
  exact rest a (need_ok.mp has)

theorem Lawful.expectIdle_bind {disorder : Activity → Disorder} {f : Unit → SequencerM β} (rest : Lawful p (f ())) :
    Lawful p (expectIdle disorder >>= f) :=
  Lawful.check_bind (fun s => perform_expectIdle s disorder) fun _ _ _ _ => rest

theorem Lawful.except_bind {r : Except Failure α} {f : α → SequencerM β} (rest : ∀ a, Lawful p (f a)) :
    Lawful p (liftM r >>= f) :=
  Lawful.check_bind (fun s => perform_except s r) fun _ a _ _ => rest a

theorem lawful_pure (a : α) : Lawful p (pure a) := fun _ drives => ⟨rfl, drives⟩

theorem lawful_throw (e : Failure) : Lawful p (throw e : SequencerM α) := fun _ drives => ⟨rfl, drives⟩

theorem lawful_modify {f : Sequencer → Sequencer} (keeps : ∀ s, (f s).profile = s.profile) : Lawful p (modify f) :=
  fun s drives => ⟨rfl, (keeps s).trans drives⟩

theorem lawful_program {program : Program α} (harmless : program.Harmless p) : Lawful p (liftM program) := by
  intro s drives
  rw [perform_program]
  exact harmless.still fun _ => ⟨rfl, drives⟩

theorem lawful_attempt {attempt : Attempt α} (harmless : attempt.run.Harmless p) : Lawful p (liftM attempt) := by
  intro s drives
  rw [perform_attempt]
  exact harmless.still fun _ => ⟨rfl, drives⟩

end Rules

section Words

variable {word : Nat}

theorem lawful_writeWord (member : p.block.offset word ∈ p.freeOffsets) (value : UInt32) :
    Lawful p (writeWord word value) := by
  refine Lawful.get_bind ?_
  rintro s rfl
  exact lawful_program (harmless_write member value)

theorem lawful_readWord (member : p.block.offset word ∈ p.readOffsets) : Lawful p (readWord word) := by
  refine Lawful.get_bind ?_
  rintro s rfl
  exact lawful_program (harmless_read member)

theorem lawful_pollWord (member : p.block.offset word ∈ p.readOffsets) (ready : UInt32 → Bool) :
    Lawful p (pollWord word ready) := by
  refine Lawful.get_bind ?_
  rintro s rfl
  exact lawful_program (harmless_poll member s.limit ready)

end Words

theorem lawful_command (value : UInt32) : Lawful p (command value) := by
  refine Lawful.get_bind ?_
  rintro s rfl
  have control : s.profile.block.offset s.profile.block.control ∈ s.profile.freeOffsets := by simp [Profile.freeOffsets]
  exact (lawful_writeWord control value).bind fun _ => lawful_modify fun _ => rfl

theorem status_mem (p : Profile) : p.block.offset p.block.status ∈ p.readOffsets := by
  simp [Profile.readOffsets, Profile.boardOffsets]

theorem rowCount_mem {word : Nat} (counts : p.block.rowCount = some word) :
    p.block.offset word ∈ p.freeOffsets := by
  simp [Profile.freeOffsets, counts]

theorem lawful_isBusy : Lawful p isBusy := by
  refine Lawful.get_bind ?_
  rintro s rfl
  exact (lawful_readWord (status_mem _)).bind fun _ => lawful_pure _

theorem lawful_waitIdle : Lawful p waitIdle := by
  refine Lawful.get_bind ?_
  rintro s rfl
  exact (lawful_pollWord (status_mem _) _).bind fun _ => lawful_pure _

theorem lawful_setActivity (activity : Activity) : Lawful p (setActivity activity) := lawful_modify fun _ => rfl

section Dispatchers

variable {pair : Dispatchers} (streams : p.dispatchers = some pair)
include streams

theorem lawful_waitEngine (direction : Direction) : Lawful p (waitEngine (pair.engine direction)) :=
  Lawful.get_bind fun s _ => (lawful_program (harmless_waitIdle streams direction s.limit)).bind fun _ => lawful_pure _

theorem lawful_resetEngine (direction : Direction) : Lawful p (resetEngine (pair.engine direction)) :=
  Lawful.get_bind fun s _ => (lawful_program (harmless_reset streams direction s.limit)).bind fun _ => lawful_pure _

theorem lawful_pushRead (source : UInt32) (len : Nat) :
    Lawful p (liftM ((pair.engine .read).pushRead source len)) := by
  apply lawful_attempt
  rw [Dispatcher.run_pushRead]
  exact harmless_send streams .read _ _

theorem lawful_pushWrite (sink : UInt32) (len : Nat) :
    Lawful p (liftM ((pair.engine .write).pushWrite sink len)) := by
  apply lawful_attempt
  rw [Dispatcher.run_pushWrite]
  exact harmless_send streams .write _ _

end Dispatchers

/-- A pulse of the latch comes as a whole. -/
theorem lawful_pulse {word : Nat} (latch : p.block.weightLatch = some word) {rest : SequencerM α}
    (lawful : Lawful p rest) :
    Lawful p (do
      writeWord word 1
      writeWord word 0
      rest) := by
  rintro s rfl
  have member : s.profile.block.offset word ∈ s.profile.latchOffsets := by simp [Profile.latchOffsets, latch]
  exact ⟨true, .raise member, false, .lower member, lawful s rfl⟩

theorem lawful_reset : Lawful p reset := by
  refine (lawful_command _).bind fun _ => (lawful_command _).bind fun _ => Lawful.get_bind ?_
  rintro s rfl
  have parked : ∀ waits, Lawful s.profile (do
      let idle ← waitIdle
      setActivity .idle
      return (⟨.reset, waits ++ [idle]⟩ : WaitReport)) :=
    fun waits => lawful_waitIdle.bind fun _ => (lawful_setActivity _).bind fun _ => lawful_pure _
  cases streams : s.profile.dispatchers with
  | none => exact parked []
  | some pair =>
    refine (lawful_resetEngine streams .read).bind fun read => ?_
    exact (lawful_resetEngine streams .write).bind fun write => parked [read, write]

theorem lawful_loadWeights (weights : UInt32) (count : Nat) : Lawful p (loadWeights weights count) := by
  refine Lawful.expectIdle_bind (Lawful.require_bind fun pair streams => Lawful.except_bind fun len => ?_)
  refine Lawful.get_bind ?_
  rintro s rfl
  refine (lawful_command _).bind fun _ => (lawful_pushRead streams weights len).bind fun _ => ?_
  refine (lawful_waitEngine streams .read).bind fun fed => lawful_waitIdle.bind fun idle => ?_
  cases latch : s.profile.block.weightLatch with
  | none => exact lawful_pure _
  | some word => exact lawful_pulse latch (lawful_pure _)

theorem lawful_arm (outputs : UInt32) (count : Nat) : Lawful p (arm outputs count) := by
  refine Lawful.expectIdle_bind (Lawful.require_bind fun pair streams => Lawful.except_bind fun len => ?_)
  exact (lawful_pushWrite streams outputs len).bind fun _ => lawful_setActivity _

theorem lawful_feed (inputs : UInt32) (count : Nat) : Lawful p (feed inputs count) := by
  refine Lawful.get_bind fun s _ => ?_
  cases s.activity with
  | idle | executing => exact lawful_throw _
  | drainArmed armed =>
    dsimp only
    split
    · refine Lawful.require_bind fun pair streams => Lawful.except_bind fun len => Lawful.get_bind ?_
      rintro s rfl
      have fed : Lawful s.profile (do
          command s.profile.block.execute
          (pair.engine .read).pushRead inputs len
          setActivity (.executing count)) :=
        (lawful_command _).bind fun _ => (lawful_pushRead streams inputs len).bind fun _ => lawful_setActivity _
      cases counts : s.profile.block.rowCount with
      | none => exact fed
      | some word =>
        dsimp only
        split
        · exact (lawful_writeWord (rowCount_mem counts) _).bind fun _ => fed
        · exact lawful_throw _
    · exact lawful_throw _

theorem lawful_execute (inputs outputs : UInt32) (count : Nat) : Lawful p (execute inputs outputs count) :=
  (lawful_arm outputs count).bind fun _ => lawful_feed inputs count

theorem lawful_finish : Lawful p finish := by
  refine Lawful.get_bind fun s _ => ?_
  cases s.activity with
  | idle | drainArmed => exact lawful_throw _
  | executing count =>
    refine Lawful.require_bind fun pair streams => (lawful_waitEngine streams .write).bind fun drained => ?_
    exact lawful_waitIdle.bind fun idle => (lawful_setActivity _).bind fun _ => lawful_pure _

theorem lawful_runIntegrated (t : Transfer) : Lawful p (runIntegrated t) := by
  refine Lawful.require_bind fun dma has => Lawful.except_bind fun _ => Lawful.get_bind ?_
  rintro s rfl
  have word : ∀ {word}, word ∈ [dma.readAddress, dma.readLength, dma.writeAddress, dma.writeControl] → ∀ value,
      Lawful s.profile (writeWord word value) := by
    intro word member value
    refine lawful_writeWord (List.mem_append_left _ (List.mem_map_of_mem ?_)) value
    rw [has]
    exact List.mem_append_left _ (List.mem_append_right _ member)
  have started : Lawful s.profile (do
      writeWord dma.readAddress t.source
      writeWord dma.readLength t.readWords
      writeWord dma.writeAddress t.sink
      command s.profile.block.execute
      writeWord dma.writeControl
        (IntegratedDma.startWrite ||| IntegratedDma.startRead ||| t.writeWords)
      let outcome ← pollWord s.profile.block.status fun value =>
        value &&& IntegratedDma.doneMask == IntegratedDma.doneMask
      return (⟨.execute, [⟨.dma .integrated, outcome⟩]⟩ : WaitReport)) := by
    refine (word (by simp) _).bind fun _ => (word (by simp) _).bind fun _ => (word (by simp) _).bind fun _ => ?_
    refine (lawful_command _).bind fun _ => (word (by simp) _).bind fun _ => ?_
    exact (lawful_pollWord (status_mem _) _).bind fun outcome => lawful_pure _
  dsimp only
  cases counts : s.profile.block.rowCount with
  | none => exact started
  | some rows => exact (lawful_writeWord (rowCount_mem counts) _).bind fun _ => started

theorem lawful_mac (weight x y : Int32) : Lawful p (mac weight x y) := by
  refine Lawful.require_bind fun block has => ?_
  have word : ∀ {word}, word ∈ [block.control, block.xIn, block.yIn] → ∀ value, Lawful p (writeWord word value) := by
    intro word member value
    refine lawful_writeWord (List.mem_append_left _ (List.mem_map_of_mem ?_)) value
    rw [has]
    exact List.mem_append_right _ member
  have result : p.block.offset block.yOut ∈ p.readOffsets := by simp [Profile.readOffsets, Profile.boardOffsets, has]
  refine (word (by simp) _).bind fun _ => (word (by simp) _).bind fun _ => (word (by simp) _).bind fun _ => ?_
  refine (word (by simp) _).bind fun _ => (word (by simp) _).bind fun _ => (word (by simp) _).bind fun _ => ?_
  exact (word (by simp) _).bind fun _ => (lawful_readWord result).bind fun _ => lawful_pure _

end Sequencer

end Systolic
