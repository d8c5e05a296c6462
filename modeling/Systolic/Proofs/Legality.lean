import Systolic.Board.Mapped
import Systolic.Board.Script
import Systolic.Proofs.Lawful
import Systolic.Proofs.Transcript

namespace Systolic

open Sequencer Program

variable {σ α : Type}

/-- What a sequencer can be asked: a call, or whether the array is busy. -/
inductive Request where
  | call (c : Call)
  | busy

def Request.issue : Request → SequencerM Unit
  | call c => do let _ ← c.issue
  | busy => do let _ ← isBusy

/-- Requests one after the other, each under a limit of its own, whatever comes of the ones before it. -/
def Sequencer.serve (s : Sequencer) : List (PollLimit × Request) → Program Sequencer
  | [] => done s
  | (limit, r) :: rest => ({ s with limit }.perform r.issue).bind fun result => result.2.serve rest

theorem Sequencer.lawful_issue (p : Profile) (r : Request) : Lawful p r.issue := by
  have answered : ∀ {α : Type} {x : SequencerM α} {f : α → Answer}, Lawful p x →
      Lawful p (f <$> x >>= fun _ => pure ()) := by
    intro α x f lawful
    rw [bind_map_left]
    exact lawful.bind fun _ => lawful_pure _
  have told : ∀ {x : SequencerM Unit}, Lawful p x → Lawful p ((do x; return Answer.done) >>= fun _ => pure ()) :=
    fun lawful => (lawful.bind fun _ => lawful_pure _).bind fun _ => lawful_pure _
  cases r with
  | busy => exact lawful_isBusy.bind fun _ => lawful_pure _
  | call c =>
    cases c with
    | reset => exact answered lawful_reset
    | loadWeights weights count => exact answered (lawful_loadWeights weights count)
    | arm outputs count => exact told (lawful_arm outputs count)
    | feed inputs count => exact told (lawful_feed inputs count)
    | execute inputs outputs count => exact told (lawful_execute inputs outputs count)
    | finish => exact answered lawful_finish
    | runIntegrated transfer => exact answered (lawful_runIntegrated transfer)
    | mac weight x y => exact answered (lawful_mac weight x y)

/-- However many requests there are, between any two of them the latch is low. -/
theorem Sequencer.harmless_serve {p : Profile} (requests : List (PollLimit × Request)) {s : Sequencer}
    (drives : s.profile = p) : (s.serve requests).Harmless p := by
  induction requests generalizing s with
  | nil => rfl
  | cons request requests ih =>
    obtain ⟨limit, r⟩ := request
    refine (lawful_issue p r { s with limit } drives).bind ?_
    rintro _ ⟨_, s'⟩ ⟨rfl, kept⟩
    exact ih kept

def Access.offset : Access → Nat
  | read offset _ | write offset _ => offset

namespace Profile

variable {p : Profile}

/-- A register access that does no harm to the board: a register the board has, not written where the board says how
it stands and gives its results and not read where there is only a latch, and no engine stopped or made to interrupt. -/
structure Admits (p : Profile) (a : Access) : Prop where
  aligned : a.offset % 4 = 0
  inside : a.offset + 4 ≤ p.controlWindow.span
  known : a.offset ∈ p.blockOffsets ∨ ∃ b ∈ p.engines, a.offset ∈ b.words
  status_kept : ∀ value, a ≠ .write (p.block.offset p.block.status) value
  result_kept : ∀ m, p.mac = some m → ∀ value, a ≠ .write (p.block.offset m.yOut) value
  latch_unread : ∀ word, p.block.weightLatch = some word → ∀ value, a ≠ .read (p.block.offset word) value
  control : ∀ b ∈ p.engines, ∀ value, a = .write b.control value →
    (value = Csr.reset ∨ value = 0) ∧ value &&& Csr.interruptEnable = 0 ∧ value &&& Csr.stop = 0

/-- Among the accesses of a run, `ended` if nothing broke it off, whether the latch is only ever written one and at
once zero after it. -/
def Pulses (p : Profile) (accesses : List Access) (ended : Prop) : Prop :=
  ∀ word before value after, p.block.weightLatch = some word →
    accesses = before ++ .write (p.block.offset word) value :: after →
    value = 1 ∧ ((∃ later, after = .write (p.block.offset word) 0 :: later) ∨ after = [] ∧ ¬ended) ∨
    value = 0 ∧ ∃ earlier, before = earlier ++ [.write (p.block.offset word) 1]

/-- The registers of the boards there are, by what a host does to them. -/
theorem offsets_known : ∀ p ∈ all, ∀ offset ∈ p.readOffsets ++ (p.freeOffsets ++ p.controlOffsets ++ p.latchOffsets),
    offset % 4 = 0 ∧ offset + 4 ≤ p.controlWindow.span ∧
      (offset ∈ p.blockOffsets ∨ ∃ b ∈ p.engines, offset ∈ b.words) := by
  decide

theorem board_apart : ∀ p ∈ all, ∀ offset ∈ p.boardOffsets,
    offset ∉ p.freeOffsets ++ p.controlOffsets ++ p.latchOffsets := by
  decide

theorem latch_apart : ∀ p ∈ all, ∀ offset ∈ p.latchOffsets,
    offset ∉ p.readOffsets ++ p.freeOffsets ++ p.controlOffsets := by
  decide

theorem control_apart : ∀ p ∈ all, ∀ offset ∈ p.controlOffsets, offset ∉ p.freeOffsets ++ p.latchOffsets := by
  decide

section Permits

variable {raised raised' : Bool} {a : Access} {offset : Nat} {value : UInt32}

theorem Permits.of_read (permitted : p.Permits raised (.read offset value) raised') : offset ∈ p.readOffsets := by
  cases permitted with
  | read member => exact member

theorem Permits.of_write (permitted : p.Permits raised (.write offset value) raised') :
    offset ∈ p.freeOffsets ++ p.controlOffsets ++ p.latchOffsets := by
  cases permitted with
  | write member => exact List.mem_append_left _ (List.mem_append_left _ member)
  | control member => exact List.mem_append_left _ (List.mem_append_right _ member)
  | raise member | lower member => exact List.mem_append_right _ member

theorem Permits.of_control (shipped : p ∈ all) (permitted : p.Permits raised (.write offset value) raised')
    (member : offset ∈ p.controlOffsets) : value = Csr.reset ∨ value = 0 := by
  have apart := control_apart p shipped offset member
  rw [List.mem_append, not_or] at apart
  cases permitted with
  | write free => exact absurd free apart.1
  | control _ harmless => exact harmless
  | raise latch | lower latch => exact absurd latch apart.2

theorem Permits.of_latch (shipped : p ∈ all) (permitted : p.Permits raised (.write offset value) raised')
    (member : offset ∈ p.latchOffsets) :
    value = 1 ∧ raised = false ∧ raised' = true ∨ value = 0 ∧ raised = true ∧ raised' = false := by
  have apart := latch_apart p shipped offset member
  rw [List.mem_append, List.mem_append, not_or, not_or] at apart
  cases permitted with
  | write free => exact absurd free apart.1.2
  | control engine => exact absurd engine apart.2
  | raise => exact .inl ⟨rfl, rfl, rfl⟩
  | lower => exact .inr ⟨rfl, rfl, rfl⟩

/-- The latch is left raised by nothing but raising it. -/
theorem Permits.raises (permitted : p.Permits raised a true) : ∃ offset ∈ p.latchOffsets, a = .write offset 1 := by
  cases permitted with
  | raise member => exact ⟨_, member, rfl⟩

theorem Permits.lowers (permitted : p.Permits true a raised') :
    raised' = false ∧ ∃ offset ∈ p.latchOffsets, a = .write offset 0 := by
  cases permitted with
  | lower member => exact ⟨rfl, _, member, rfl⟩

theorem Permits.admits (shipped : p ∈ all) (permitted : p.Permits raised a raised') : p.Admits a := by
  have member : a.offset ∈ p.readOffsets ++ (p.freeOffsets ++ p.controlOffsets ++ p.latchOffsets) := by
    cases a with
    | read offset value => exact List.mem_append_left _ permitted.of_read
    | write offset value => exact List.mem_append_right _ permitted.of_write
  have kept : ∀ {offset value}, a = .write offset value → offset ∉ p.boardOffsets := by
    rintro offset value rfl board
    exact board_apart p shipped offset board permitted.of_write
  obtain ⟨aligned, inside, known⟩ := offsets_known p shipped _ member
  refine ⟨aligned, inside, known, ?_, ?_, ?_, ?_⟩
  · intro value same
    exact kept same (by simp [boardOffsets])
  · intro m has value same
    exact kept same (by simp [boardOffsets, has])
  · rintro word latch value rfl
    have apart := latch_apart p shipped (p.block.offset word) (by simp [latchOffsets, latch])
    simp [permitted.of_read] at apart
  · rintro b engine value rfl
    have harmless := permitted.of_control shipped (List.mem_map_of_mem engine)
    refine ⟨harmless, ?_⟩
    rcases harmless with rfl | rfl <;> decide

end Permits

theorem mem_latchOffsets {word offset : Nat} (latch : p.block.weightLatch = some word) :
    offset ∈ p.latchOffsets ↔ offset = p.block.offset word := by
  simp [latchOffsets, latch]

/-- A chain that leaves the latch low has pulsed it whenever it wrote to it. -/
theorem pulses_of_chain (shipped : p ∈ all) {accesses : List Access} {raised : Bool} {ended : Prop}
    (chain : Chain p.Permits false accesses raised) (low : ended → raised = false) : p.Pulses accesses ended := by
  rintro word before value after latch rfl
  obtain ⟨left, right, first, permitted, rest⟩ := chain.split
  rcases permitted.of_latch shipped ((mem_latchOffsets latch).mpr rfl) with ⟨one, -, rfl⟩ | ⟨zero, rfl, -⟩
  · refine .inl ⟨one, ?_⟩
    cases rest with
    | none => exact .inr ⟨rfl, fun e => nomatch low e⟩
    | step next =>
      obtain ⟨-, offset, member, rfl⟩ := next.lowers
      obtain rfl := (mem_latchOffsets latch).mp member
      exact .inl ⟨_, rfl⟩
  · obtain ⟨earlier, a, _, rfl, raising⟩ := first.last (by decide)
    obtain ⟨offset, member, rfl⟩ := raising.raises
    obtain rfl := (mem_latchOffsets latch).mp member
    exact .inr ⟨zero, earlier, rfl⟩

end Profile

/-- Plain memory behind the control window takes all that hosts do. -/
theorem MappedBoard.takes {p : Profile} (shipped : p ∈ Profile.all) (timing : Timing) :
    (MappedBoard.board timing).Takes p.Permits fun b => b.control.memory.size = p.controlWindow.span := by
  have has : ∀ {b : MappedBoard} {a : Access} {q q'}, b.control.memory.size = p.controlWindow.span →
      p.Permits q a q' → b.control.HasRegister a.offset := by
    intro b a q q' size permitted
    have admitted := permitted.admits shipped
    exact ⟨admitted.aligned, size ▸ admitted.inside⟩
  constructor
  · intro b q q' offset value size permitted
    have register : b.control.HasRegister offset := has size permitted
    refine ⟨b.control.memory.word offset, b, ?_, size⟩
    simp only [MappedBoard.board, MappedWindow.readRegister, if_pos register]
    rfl
  · intro b q q' offset value size permitted
    have register : b.control.HasRegister offset := has size permitted
    have after : (MappedBoard.board timing).write b offset value =
        some { b with control := { b.control with memory := b.control.memory.storeWord offset value } } := by
      simp only [MappedBoard.board, MappedWindow.writeRegister, if_pos register]
      rfl
    exact ⟨_, after, (Memory.size_store ..).trans size⟩

theorem Board.Accepts.takes {τ : Type} {b : Board σ} (accepts : b.Accepts) (rules : Rules τ) :
    b.Takes rules fun _ => True := by
  constructor
  · intro s q q' offset value _ _
    obtain ⟨⟨given, s'⟩, answer⟩ := Option.isSome_iff_exists.mp (accepts.read s offset)
    exact ⟨given, s', answer, trivial⟩
  · intro s q q' offset value _ _
    obtain ⟨s', taken⟩ := Option.isSome_iff_exists.mp (accepts.write s offset value)
    exact ⟨s', taken, trivial⟩

/-- Whatever a sequencer of one of the boards is asked, however long it waits and whatever it reads, every register
access it makes is one the board has and does it no harm, and the latch is only pulsed. -/
theorem accesses_legal {p : Profile} (shipped : p ∈ Profile.all) {s : Sequencer} (drives : s.profile = p)
    (requests : List (PollLimit × Request)) :
    (∀ {σ : Type} (b : Board σ) (state : σ),
      let run := (s.serve requests).runOn b state .empty
      (∀ a ∈ run.journal.toList, p.Admits a) ∧ p.Pulses run.journal.toList run.result.isSome ∧
        (b.Accepts → run.result.isSome)) ∧
    ∀ (timing : Timing) (b : MappedBoard), b.control.memory.size = p.controlWindow.span →
      ((s.serve requests).runOn (MappedBoard.board timing) b .empty).result.isSome := by
  have harmless := harmless_serve requests drives
  constructor
  · intro σ b state run
    obtain ⟨made, raised, journal, chain, ended⟩ := Follows.runOn harmless b state .empty
    obtain rfl : run.journal.toList = made := journal
    refine ⟨?_, Profile.pulses_of_chain shipped chain ?_, ?_⟩
    · intro a member
      obtain ⟨_, _, permitted⟩ := chain.allowed member
      exact permitted.admits shipped
    · intro whole
      obtain ⟨s', result⟩ := Option.isSome_iff_exists.mp whole
      exact ended s' result
    · exact fun accepts => Follows.ends harmless (accepts.takes _) trivial _
  · exact fun timing b size => Follows.ends harmless (MappedBoard.takes shipped timing) size _

/-- The usual board with an array and a feeding engine that never rest, asked for weights, for an execution and whether
it is busy. -/
theorem busy_session_legal :
    let requests := [.call .reset, .call (.loadWeights 0x20000000 1), .call (.execute 0x20001000 0x20004000 2), .busy,
      .call .finish].map ((PollLimit.attempts 3, ·))
    let busy := ((Script.empty 0).preset 0x30004 [1]).preset 0x31000 [1]
    let run := ((Sequencer.start .hpsMsgdma .default).serve requests).runOn (Script.board (.steady 0)) busy .empty
    (∀ a ∈ run.journal.toList, Profile.hpsMsgdma.Admits a) ∧
      Profile.hpsMsgdma.Pulses run.journal.toList run.result.isSome ∧ run.result.isSome ∧
        Access.write 0x3001c 1 ∈ run.journal.toList := by
  intro requests busy run
  have legal :=
    (accesses_legal (by decide) (s := .start .hpsMsgdma .default) rfl requests).1 (Script.board (.steady 0)) busy
  exact ⟨legal.1, legal.2.1, legal.2.2 Script.accepts, by decide⟩

end Systolic
