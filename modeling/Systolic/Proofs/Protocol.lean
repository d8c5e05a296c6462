import Systolic.Board.Script
import Systolic.Proofs.Outcome
import Systolic.Proofs.Streams

namespace Systolic

open Sequencer Program

/-- The value an offset was last given. Here and below writes stand with the latest first. -/
def lastWritten (h : List Write) (offset : Nat) : Option UInt32 := h.lookup offset

namespace Dispatchers

/-- The offset of the word whose write hands over an engine's descriptor. -/
def commitOffset (pair : Dispatchers) (direction : Direction) : Nat :=
  (pair.block direction).descriptor + Descriptor.controlSlot

def Commits (pair : Dispatchers) (direction : Direction) (w : Write) : Prop :=
  w.1 = pair.commitOffset direction ∧ w.2 &&& pair.flags.go ≠ 0

instance (pair : Dispatchers) (direction : Direction) (w : Write) :
    Decidable (pair.Commits direction w) := inferInstanceAs (Decidable (_ ∧ _))

/-- A reset of the engine that drains, which is a part of every session reset and of nothing else. -/
def ResetsDrain (pair : Dispatchers) (w : Write) : Prop :=
  w.1 = pair.write.control ∧ w.2 &&& Csr.reset ≠ 0

instance (pair : Dispatchers) (w : Write) : Decidable (pair.ResetsDrain w) :=
  inferInstanceAs (Decidable (_ ∧ _))

end Dispatchers

variable (p : Profile) (pair : Dispatchers)

/-- A feed of inputs: a descriptor for the engine that reads, while the command is to execute. -/
def ExecuteFeed (earlier : List Write) (w : Write) : Prop :=
  pair.Commits .read w ∧ lastWritten earlier (p.block.offset p.block.control) = some p.block.execute

instance (earlier : List Write) (w : Write) : Decidable (ExecuteFeed p pair earlier w) :=
  inferInstanceAs (Decidable (_ ∧ _))

/-- The lengths of the drains handed over since the last feed of inputs or reset of the drain. -/
def outstanding : List Write → List UInt32
  | [] => []
  | w :: earlier =>
    if ExecuteFeed p pair earlier w ∨ pair.ResetsDrain w then []
    else if pair.Commits .write w then
      (lastWritten earlier (pair.write.descriptor + 8)).getD 0 :: outstanding earlier
    else outstanding earlier

/-- Whether `length` bytes may be fed now. Weights are fed with no drain outstanding, inputs into the only
one there is: it holds four bytes for each that is fed, and the row count, where there is one, counts the
rows fed. -/
def MayFeed (h : List Write) (length : UInt32) : Prop :=
  lastWritten h (p.block.offset p.block.control) = some p.block.loadWeights ∧ outstanding p pair h = [] ∨
  lastWritten h (p.block.offset p.block.control) = some p.block.execute ∧
    ∃ drain, outstanding p pair h = [drain] ∧ drain.toNat = 4 * length.toNat ∧
      ∀ word, p.block.rowCount = some word → lastWritten h (p.block.offset word) = some (length / 8)

/-- Why a write may come after the writes `earlier`. -/
structure Orderly (earlier : List Write) (w : Write) : Prop where
  /-- A control word says go and comes right after the other words of its descriptor, of which the
  address for the other direction is zero and the length is not. -/
  whole : ∀ direction, w.1 = pair.commitOffset direction →
    w.2 &&& pair.flags.go ≠ 0 ∧ ∃ address length before, length ≠ 0 ∧
      earlier = ((pair.block direction).descriptor + 8, length) ::
        ((pair.block direction).descriptor + 4, if direction = .write then address else 0) ::
        ((pair.block direction).descriptor, if direction = .read then address else 0) :: before
  fed : pair.Commits .read w →
    ∃ length, lastWritten earlier (pair.read.descriptor + 8) = some length ∧ MayFeed p pair earlier length
  drained : pair.Commits .write w → outstanding p pair earlier = []

def AllOrderly : List Write → Prop
  | [] => True
  | w :: earlier => Orderly p pair earlier w ∧ AllOrderly earlier

variable {p pair}

theorem AllOrderly.append {after h : List Write} (all : AllOrderly p pair (after ++ h)) :
    AllOrderly p pair h := by
  induction after with
  | nil => exact all
  | cons w after ih => exact ih all.2

section Streams

variable (streams : p.Streams pair)
include streams

theorem Profile.Streams.commitOffset_read : pair.commitOffset .read = 0x3104c := by
  simp [Dispatchers.commitOffset, Dispatchers.block, streams.read, Descriptor.controlSlot]

theorem Profile.Streams.commitOffset_write : pair.commitOffset .write = 0x3105c := by
  simp [Dispatchers.commitOffset, Dispatchers.block, streams.write, Descriptor.controlSlot]

theorem Profile.Streams.writeControl : pair.write.control = 0x31024 := by
  simp [streams.write, EngineBlock.control, Csr.controlOffset]

/-- Two writes are not the same kind of write when their offsets differ. -/
theorem not_cleared_of_drain {earlier : List Write} {w : Write} (commits : pair.Commits .write w) :
    ¬ (ExecuteFeed p pair earlier w ∨ pair.ResetsDrain w) := by
  have offset := commits.1
  rw [streams.commitOffset_write] at offset
  rintro (feed | reset)
  · have other := feed.1.1
    rw [streams.commitOffset_read] at other
    omega
  · have other := reset.1
    rw [streams.writeControl] at other
    omega

/-- A drain that is no longer outstanding was given up to a feed of inputs or to a reset. -/
theorem cleared_between {between before : List Write} {w : Write} (commits : pair.Commits .write w)
    (clear : outstanding p pair (between ++ w :: before) = []) :
    ∃ later x since, between = later ++ x :: since ∧
      (ExecuteFeed p pair (since ++ w :: before) x ∨ pair.ResetsDrain x) := by
  induction between with
  | nil => simp [outstanding, not_cleared_of_drain streams commits, commits] at clear
  | cons x between ih =>
    by_cases here : ExecuteFeed p pair (between ++ w :: before) x ∨ pair.ResetsDrain x
    · exact ⟨[], x, between, rfl, here⟩
    · by_cases again : pair.Commits .write x
      · simp [outstanding, here, again] at clear
      · obtain ⟨later, y, since, same, cleared⟩ := ih (by simpa [outstanding, here, again] using clear)
        exact ⟨x :: later, y, since, by rw [same]; rfl, cleared⟩

theorem orderly_other {earlier : List Write} {w : Write} (notRead : w.1 ≠ 0x3104c) (notWrite : w.1 ≠ 0x3105c) :
    Orderly p pair earlier w where
  whole direction offset := by
    cases direction with
    | read => exact absurd (offset.trans streams.commitOffset_read) notRead
    | write => exact absurd (offset.trans streams.commitOffset_write) notWrite
  fed commits := absurd (commits.1.trans streams.commitOffset_read) notRead
  drained commits := absurd (commits.1.trans streams.commitOffset_write) notWrite

/-- Writes elsewhere than to a descriptor's control word or to reset the drain. -/
theorem quiet_writes {h : List Write} (all : AllOrderly p pair h) (ws : List Write)
    (quiet : ∀ w ∈ ws, w.1 ≠ 0x3104c ∧ w.1 ≠ 0x3105c ∧ (w.1 = 0x31024 → w.2 &&& Csr.reset = 0)) :
    AllOrderly p pair (ws ++ h) ∧ outstanding p pair (ws ++ h) = outstanding p pair h := by
  induction ws with
  | nil => exact ⟨all, rfl⟩
  | cons w ws ih =>
    obtain ⟨notRead, notWrite, noReset⟩ := quiet w List.mem_cons_self
    obtain ⟨later, same⟩ := ih fun x member => quiet x (List.mem_cons_of_mem w member)
    have kept : ¬ (ExecuteFeed p pair (ws ++ h) w ∨ pair.ResetsDrain w) := by
      rintro (feed | reset)
      · exact notRead (feed.1.1.trans streams.commitOffset_read)
      · exact reset.2 (noReset (reset.1.trans streams.writeControl))
    have notDrain : ¬ pair.Commits .write w := fun commits =>
      notWrite (commits.1.trans streams.commitOffset_write)
    refine ⟨⟨orderly_other streams notRead notWrite, later⟩, ?_⟩
    show outstanding p pair (w :: (ws ++ h)) = _
    rw [outstanding, if_neg kept, if_neg notDrain, same]

theorem commitOffset_inj {one other : Direction} (same : pair.commitOffset one = pair.commitOffset other) :
    one = other := by
  have read := streams.commitOffset_read
  have write := streams.commitOffset_write
  cases one <;> cases other <;> first | rfl | omega

/-- The words of a descriptor before its control word. -/
def descriptorWords (pair : Dispatchers) (direction : Direction) (address length : UInt32) : List Write :=
  [((pair.block direction).descriptor + 8, length),
    ((pair.block direction).descriptor + 4, if direction = .write then address else 0),
    ((pair.block direction).descriptor, if direction = .read then address else 0)]

theorem descriptorWords_quiet {h : List Write} (all : AllOrderly p pair h) (direction : Direction)
    (address length : UInt32) :
    AllOrderly p pair (descriptorWords pair direction address length ++ h) ∧
      outstanding p pair (descriptorWords pair direction address length ++ h) = outstanding p pair h := by
  apply quiet_writes streams all _
  cases direction <;> simp [descriptorWords, Dispatchers.block, streams.read, streams.write]

theorem lastWritten_descriptorWords (h : List Write) (direction : Direction) (address length : UInt32)
    {offset : Nat} (other : offset < 0x31040 ∨ 0x31060 ≤ offset) :
    lastWritten (descriptorWords pair direction address length ++ h) offset = lastWritten h offset := by
  have apart : ∀ base : Nat, base = 0x31040 ∨ base = 0x31050 →
      (offset == base + 8) = false ∧ (offset == base + 4) = false ∧ (offset == base) = false := by
    intro base
    simp only [beq_eq_false_iff_ne]
    omega
  obtain ⟨length, write, read⟩ := apart (pair.block direction).descriptor (by
    cases direction <;> simp [Dispatchers.block, streams.read, streams.write])
  simp [lastWritten, descriptorWords, List.lookup_cons, length, write, read]

theorem descriptor_whole {direction : Direction} {address length control : UInt32} (h : List Write)
    (positive : length ≠ 0) (go : control &&& pair.flags.go ≠ 0) (other : Direction)
    (offset : pair.commitOffset direction = pair.commitOffset other) :
    control &&& pair.flags.go ≠ 0 ∧ ∃ taken len before, len ≠ 0 ∧
      descriptorWords pair direction address length ++ h = ((pair.block other).descriptor + 8, len) ::
        ((pair.block other).descriptor + 4, if other = .write then taken else 0) ::
        ((pair.block other).descriptor, if other = .read then taken else 0) :: before := by
  obtain rfl := commitOffset_inj streams offset
  exact ⟨go, address, length, h, positive, rfl⟩

/-- A descriptor's words change nothing of what a feed asks. -/
theorem MayFeed.descriptorWords {h : List Write} {length : UInt32} (allowed : MayFeed p pair h length)
    (all : AllOrderly p pair h) (direction : Direction) (address given : UInt32) :
    MayFeed p pair (descriptorWords pair direction address given ++ h) length := by
  obtain ⟨-, same⟩ := descriptorWords_quiet streams all direction address given
  have command : lastWritten (Systolic.descriptorWords pair direction address given ++ h)
      (p.block.offset p.block.control) = lastWritten h (p.block.offset p.block.control) := by
    rw [streams.command]
    exact lastWritten_descriptorWords streams h _ _ _ (by omega)
  unfold MayFeed
  rw [same, command]
  rcases allowed with weights | ⟨execute, drain, single, four, rows⟩
  · exact .inl weights
  · refine .inr ⟨execute, drain, single, four, ?_⟩
    intro word has
    have last := rows word has
    rw [streams.rows word has] at last ⊢
    exact (lastWritten_descriptorWords streams h _ _ _ (by omega)).trans last

/-- After a feed that may come nothing is outstanding: weights come when nothing is, and inputs take up
the only drain. -/
theorem feed_pushed {h : List Write} {length : UInt32} (all : AllOrderly p pair h) (source : UInt32)
    (positive : length ≠ 0) (allowed : MayFeed p pair h length) :
    let h' := ((pair.engine .read).pushWrites (.readStream pair.flags source length)).reverse ++ h
    AllOrderly p pair h' ∧ outstanding p pair h' = [] := by
  obtain ⟨words, -⟩ := descriptorWords_quiet streams all .read source length
  have still := allowed.descriptorWords streams all .read source length
  have commits : pair.Commits .read (pair.commitOffset .read, pair.flags.readStream) := ⟨rfl, streams.readStream⟩
  have notDrain : ¬ pair.Commits .write (pair.commitOffset .read, pair.flags.readStream) := fun other =>
    nomatch commitOffset_inj streams other.1
  have last : lastWritten (descriptorWords pair .read source length ++ h)
      (pair.read.descriptor + 8) = some length := by
    simp [lastWritten, descriptorWords, Dispatchers.block]
  show AllOrderly p pair ((pair.commitOffset .read, pair.flags.readStream) ::
      (descriptorWords pair .read source length ++ h)) ∧
    outstanding p pair ((pair.commitOffset .read, pair.flags.readStream) ::
      (descriptorWords pair .read source length ++ h)) = []
  refine ⟨⟨?_, words⟩, ?_⟩
  · exact ⟨descriptor_whole streams h positive streams.readStream, fun _ => ⟨length, last, still⟩,
      fun other => absurd other notDrain⟩
  · rcases still with ⟨-, clear⟩ | ⟨execute, -⟩
    · rw [outstanding, if_neg notDrain, clear, ite_self]
    · exact if_pos (.inl ⟨commits, execute⟩)

/-- A drain that is armed when nothing is outstanding is the only one then. -/
theorem drain_pushed {h : List Write} {length : UInt32} (all : AllOrderly p pair h) (sink : UInt32)
    (positive : length ≠ 0) (clear : outstanding p pair h = []) :
    let h' := ((pair.engine .write).pushWrites (.writeStream pair.flags sink length)).reverse ++ h
    AllOrderly p pair h' ∧ outstanding p pair h' = [length] := by
  obtain ⟨words, same⟩ := descriptorWords_quiet streams all .write sink length
  have commits : pair.Commits .write (pair.commitOffset .write, pair.flags.writeStream) :=
    ⟨rfl, streams.writeStream⟩
  have notFeed : ¬ pair.Commits .read (pair.commitOffset .write, pair.flags.writeStream) := fun other =>
    nomatch commitOffset_inj streams other.1
  have last : lastWritten (descriptorWords pair .write sink length ++ h)
      (pair.write.descriptor + 8) = some length := by
    simp [lastWritten, descriptorWords, Dispatchers.block]
  show AllOrderly p pair ((pair.commitOffset .write, pair.flags.writeStream) ::
      (descriptorWords pair .write sink length ++ h)) ∧
    outstanding p pair ((pair.commitOffset .write, pair.flags.writeStream) ::
      (descriptorWords pair .write sink length ++ h)) = [length]
  refine ⟨⟨?_, words⟩, ?_⟩
  · exact ⟨descriptor_whole streams h positive streams.writeStream, fun other => absurd other notFeed,
      fun _ => same.trans clear⟩
  · rw [outstanding, if_neg (not_cleared_of_drain streams commits), if_pos commits, same, clear, last]
    rfl

end Streams

/-- The lengths of the drains that a sequencer holds to be outstanding. -/
def Activity.drains : Activity → List UInt32
  | drainArmed count => [UInt32.ofNat (count * 256)]
  | idle | executing _ => []

/-- What a sequencer keeps to, given the writes that it has made. -/
structure Kept (p : Profile) (pair : Dispatchers) (s : Sequencer) (h : List Write) : Prop where
  profile : s.profile = p
  orderly : AllOrderly p pair h
  drains : outstanding p pair h = s.activity.drains
  fits : ∀ count, s.activity = .drainArmed count → count * 256 < UInt32.size

theorem Kept.start (p : Profile) (pair : Dispatchers) (limit : PollLimit) :
    Kept p pair (.start p limit) [] where
  profile := rfl
  orderly := trivial
  drains := rfl
  fits := by intro _ same; nomatch same

theorem ofNat_ne_zero {n : Nat} (positive : 0 < n) (fits : n < UInt32.size) : UInt32.ofNat n ≠ 0 := by
  intro zero
  have value := congrArg UInt32.toNat zero
  rw [UInt32.toNat_ofNat_of_lt' fits] at value
  simp at value
  omega

theorem Kept.arm {s : Sequencer} {h : List Write} {outputs : UInt32} {count : Nat} (kept : Kept p pair s h)
    (streams : p.Streams pair) (idle : s.activity = .idle) (positive : 0 < count)
    (fits : count * 256 < UInt32.size) :
    Kept p pair { s with activity := .drainArmed count } ((armWrites pair outputs count).reverse ++ h) := by
  have clear := kept.drains
  rw [idle] at clear
  obtain ⟨orderly, drains⟩ := drain_pushed streams kept.orderly outputs
    (ofNat_ne_zero (n := count * 256) (by omega) fits) clear
  refine ⟨kept.profile, orderly, drains, ?_⟩
  intro _ same
  obtain rfl := Activity.drainArmed.inj same
  exact fits

theorem Kept.loadWeights {s : Sequencer} {h : List Write} {weights : UInt32} {count : Nat}
    (kept : Kept p pair s h) (streams : p.Streams pair) (idle : s.activity = .idle) (positive : 0 < count)
    (fits : count * 64 < UInt32.size) :
    Kept p pair { s with lastCommand := some p.block.loadWeights }
      ((loadWrites p pair weights count).reverse ++ h) := by
  have clear := kept.drains
  rw [idle] at clear
  obtain ⟨commanded, same⟩ := quiet_writes streams kept.orderly [(0x30000, 3)] (by simp)
  obtain ⟨orderly, drains⟩ := feed_pushed streams commanded weights
    (ofNat_ne_zero (n := count * 64) (by omega) fits)
    (.inl ⟨by rw [streams.command, streams.loadWeights]; rfl, same.trans clear⟩)
  obtain ⟨latched, still⟩ := quiet_writes streams orderly [(0x3001c, 0), (0x3001c, 1)] (by simp)
  rw [streams.loadWrites]
  simp only [List.reverse_cons, List.reverse_append, List.append_assoc]
  refine ⟨kept.profile, latched, ?_, ?_⟩
  · rw [show Activity.drains _ = [] from congrArg Activity.drains idle]
    exact still.trans drains
  · intro count armed
    exact kept.fits count armed

theorem Kept.feed {s : Sequencer} {h : List Write} {inputs : UInt32} {count : Nat}
    (kept : Kept p pair s h) (streams : p.Streams pair) (armed : s.activity = .drainArmed count)
    (positive : 0 < count) :
    Kept p pair { s with lastCommand := some p.block.execute, activity := .executing count }
      ((feedWrites p pair inputs count).reverse ++ h) := by
  have fits := kept.fits count armed
  have single := kept.drains
  rw [armed] at single
  have four : (UInt32.ofNat (count * 256)).toNat = 4 * (UInt32.ofNat (count * 64)).toNat := by
    rw [UInt32.toNat_ofNat_of_lt' fits, UInt32.toNat_ofNat_of_lt' (by omega)]
    omega
  have eighth : UInt32.ofNat (8 * count) = UInt32.ofNat (count * 64) / 8 := by
    apply UInt32.toNat.inj
    rw [UInt32.toNat_ofNat_of_lt' (by omega), UInt32.toNat_div, UInt32.toNat_ofNat_of_lt' (by omega)]
    show 8 * count = count * 64 / 8
    omega
  obtain ⟨commanded, same⟩ := quiet_writes streams kept.orderly
    ((0x30000, 1) :: (p.rowWrites count).reverse) (by
      unfold Profile.rowWrites
      split <;> simp)
  obtain ⟨orderly, drains⟩ := feed_pushed streams commanded inputs
    (ofNat_ne_zero (n := count * 64) (by omega) (by omega))
    (.inr ⟨by rw [streams.command, streams.execute]; rfl, _, same.trans single, four, by
      intro word has
      rw [streams.rows word has, Profile.rowWrites, if_neg (by simp [has])]
      exact congrArg some eighth⟩)
  rw [streams.feedWrites]
  simp only [List.reverse_cons, List.reverse_append, List.append_assoc]
  refine ⟨kept.profile, orderly, drains, ?_⟩
  intro _ armed
  nomatch armed

theorem Kept.reset {s : Sequencer} {h : List Write} (kept : Kept p pair s h) (streams : p.Streams pair) :
    Kept p pair { s with lastCommand := some ControlBlock.idle, activity := .idle }
      ((resetWrites p).reverse ++ h) := by
  obtain ⟨parked, _⟩ := quiet_writes streams kept.orderly
    [(0x31004, 0), (0x31000, Csr.clearAll), (0x31004, Csr.reset), (0x30000, 0), (0x30000, 0)] (by simp)
  have resets : pair.ResetsDrain (0x31024, Csr.reset) := ⟨streams.writeControl.symm, by decide⟩
  have dropped : AllOrderly p pair ((0x31024, Csr.reset) :: _) :=
    ⟨orderly_other streams (by simp) (by simp), parked⟩
  obtain ⟨orderly, same⟩ := quiet_writes streams dropped [(0x31024, 0), (0x31020, Csr.clearAll)]
    (by simp)
  rw [streams.resetWrites]
  refine ⟨kept.profile, orderly, same.trans ?_, by intro _ armed; nomatch armed⟩
  rw [outstanding, if_pos (.inr resets)]
  rfl

theorem Kept.finish {s : Sequencer} {h : List Write} {count : Nat} (kept : Kept p pair s h)
    (executing : s.activity = .executing count) : Kept p pair { s with activity := .idle } h where
  profile := kept.profile
  orderly := kept.orderly
  drains := by
    have clear := kept.drains
    rw [executing] at clear
    exact clear
  fits := by intro _ same; nomatch same

theorem Kept.call {s s' : Sequencer} {c : Call} {ws h : List Write} (streams : p.Streams pair)
    (kept : Kept p pair s h) (effect : c.Effect s ws s') : Kept p pair s' (ws.reverse ++ h) := by
  obtain rfl := kept.profile
  cases effect with
  | reset => exact kept.reset streams
  | loadWeights idle has positive fits =>
    obtain rfl := streams.unique has
    exact kept.loadWeights streams idle positive fits
  | arm idle has positive fits =>
    obtain rfl := streams.unique has
    exact kept.arm streams idle positive fits
  | feed armed has positive fits =>
    obtain rfl := streams.unique has
    exact kept.feed streams armed positive
  | execute idle has positive fits =>
    obtain rfl := streams.unique has
    rw [List.reverse_append, List.append_assoc]
    exact (kept.arm streams idle positive fits).feed streams rfl positive
  | finish executing => exact kept.finish executing
  | runIntegrated has => exact absurd has (by simp [streams.integrated])
  | mac has => exact absurd has (by simp [streams.mac])

/-- Whatever calls are made on a streaming board, and whatever the board answers, every register write
has its reason in the writes before it. Between two drains handed over one was given up to a feed of
inputs or to a reset. -/
theorem writes_orderly {σ : Type} (shipped : p ∈ Profile.all) (streams : p.dispatchers = some pair)
    (limit : PollLimit) (calls : List (PollLimit × Call)) (b : Board σ) (state : σ)
    {after earlier : List Write} {w : Write}
    (made : (((start p limit).performAll calls).runOn b state .empty).journal.writes.reverse =
      after ++ w :: earlier) :
    Orderly p pair earlier w ∧
      ∀ between w' before, earlier = between ++ w' :: before → pair.Commits .write w →
        pair.Commits .write w' → ∃ later x since, between = later ++ x :: since ∧
          (ExecuteFeed p pair (since ++ w' :: before) x ∨ pair.ResetsDrain x) := by
  have layout := Profile.streams_of_shipped shipped streams
  obtain ⟨ws, s', issues, kept⟩ := performAll_keeps
    (fun limit kept => ⟨kept.profile, kept.orderly, kept.drains, kept.fits⟩)
    (fun kept effect => kept.call layout effect) (Kept.start p pair limit) calls
  obtain ⟨written, journal, ⟨unwritten, all⟩, -⟩ := issues.runOn b state .empty
  have whole : AllOrderly p pair (unwritten.reverse ++ (after ++ w :: earlier)) := by
    rw [← made, journal, ← List.reverse_append, Journal.writes_empty, List.nil_append, all]
    simpa using kept.orderly
  have orderly := whole.append.append.1
  refine ⟨orderly, ?_⟩
  intro between w' before same commits earlierCommits
  exact cleared_between layout earlierCommits (same ▸ orderly.drained commits)

/-- An execution after the load of one matrix, on a scripted board: the control word that feeds the inputs. -/
theorem execution_orderly :
    let weights : List Write := [(0x3001c, 0), (0x3001c, 1), (0x3104c, 0x8c000000), (0x31048, 64), (0x31044, 0),
      (0x31040, 0x20000000), (0x30000, 3)]
    let drain : List Write := [(0x3105c, 0x80c00000), (0x31058, 512), (0x31054, 0x20004000), (0x31050, 0)]
    let words : List Write := [(0x31048, 128), (0x31044, 0), (0x31040, 0x20001000), (0x30000, 1), (0x30018, 16)]
    Orderly .hpsMsgdma (Profile.streamingEngines .hps) (words ++ drain ++ weights) (0x3104c, 0x8c000000) := by
  intro weights drain words
  have shipped : Profile.hpsMsgdma ∈ Profile.all := List.mem_cons_self
  have made : (((start .hpsMsgdma .default).performAll [(.attempts 1, .loadWeights 0x20000000 1),
      (.attempts 1, .execute 0x20001000 0x20004000 2)]).runOn (Script.board (.steady 0)) (.empty 0)
      .empty).journal.writes.reverse =
      [] ++ (0x3104c, 0x8c000000) :: (words ++ drain ++ weights) := by decide
  exact (writes_orderly shipped rfl .default _ (Script.board (.steady 0)) (.empty 0) made).1

end Systolic
