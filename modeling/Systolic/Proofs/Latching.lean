import Systolic.Proofs.RawWrites
import Systolic.Proofs.Rows

namespace Systolic

/-- What a host does to a board by hand: it writes to a register, or it stores or clears a range of shared memory.
Faults come and go too. -/
inductive Touch where
  | write (w : Write)
  | store (offset : Nat) (bytes : List UInt8)
  | clear (offset len : Nat)
  | faults (faults : Faults)
deriving DecidableEq

/-- The register writes among some touches. -/
def writesOf (h : List Touch) : List Write :=
  h.filterMap fun
    | .write w => some w
    | .store .. | .clear .. | .faults _ => none

def Device.touch (d : Device) : Touch → Device
  | .write w => d.write w.1 w.2
  | .store offset bytes => { d with memory := d.memory.store offset bytes }
  | .clear offset len => { d with memory := d.memory.clear offset len }
  | .faults faults => { d with faults }

namespace Profile

/-- A fresh board after some touches, the latest first. -/
def touched (p : Profile) (size : Nat) : List Touch → Device
  | [] => .fresh p (.zeroed size)
  | t :: earlier => (p.touched size earlier).touch t

/-- Whether a write makes the latch rise: it is of another value than zero, and what was last written there, if anything
was, is zero. -/
def Lifts (p : Profile) (earlier : List Write) (w : Write) : Prop :=
  p.block.weightLatch.map p.block.offset = some w.1 ∧ w.2 ≠ 0 ∧ (lastWritten earlier w.1).getD 0 = 0

instance (p : Profile) (earlier : List Write) (w : Write) : Decidable (p.Lifts earlier w) :=
  inferInstanceAs (Decidable (_ ∧ _))

/-- The weights that waited when the latch rose, for each time that it did, the latest first. -/
def latched (p : Profile) (size : Nat) : List Touch → List Operand
  | [] => []
  | .write w :: earlier =>
    if p.Lifts (writesOf earlier) w then (p.touched size earlier).shadow :: p.latched size earlier
    else p.latched size earlier
  | .store .. :: earlier | .clear .. :: earlier | .faults _ :: earlier => p.latched size earlier

end Profile

variable {p : Profile} {pair : Dispatchers} {size : Nat} {h : List Write} {d : Device}

theorem Profile.handled_touched (shipped : p ∈ all) (size : Nat) (h : List Touch) :
    Handled p size (writesOf h) (p.touched size h) := by
  induction h with
  | nil => exact .fresh
  | cons t earlier ih =>
    cases t with
    | write w => exact ih.write w
    | store offset bytes => exact ih.memory ((Memory.size_store ..).trans (ih.size_memory shipped))
    | clear offset len => exact ih.memory ((Memory.size_clear ..).trans (ih.size_memory shipped))
    | faults faults => exact ih.faults faults

/-- A rise puts into use what waits, and counts. -/
theorem Handled.write_lifts (streams : p.Streams pair) (handled : Handled p size h d) {w : Write}
    (lifts : p.Lifts h w) : (d.write w.1 w.2).active = d.shadow ∧ (d.write w.1 w.2).latchPulses = d.latchPulses + 1 := by
  obtain ⟨offset, value⟩ := w
  obtain ⟨there, nonzero, low⟩ := lifts
  obtain ⟨word, latch, place⟩ := streams.latch
  obtain rfl : 0x3001c = offset := by
    rw [latch, Option.map_some, place] at there
    exact Option.some.inj there
  have level := handled.latch streams
  obtain rfl := handled.profile
  rw [Device.write_latch streams rfl, Device.setLatch, if_pos ⟨nonzero, level.trans low⟩]
  exact ⟨rfl, rfl⟩

/-- No other write changes which weights are in use. -/
theorem Handled.write_rests (latches : p.Latched) (streams : p.Streams pair) (handled : Handled p size h d) {w : Write}
    (rests : ¬ p.Lifts h w) : (d.write w.1 w.2).active = d.active ∧ (d.write w.1 w.2).latchPulses = d.latchPulses := by
  obtain ⟨offset, value⟩ := w
  have level := handled.latch streams
  obtain rfl := handled.profile
  by_cases named : d.profile.register offset = .latch
  · obtain rfl := streams.offset_of_latch named
    have still : ¬ (value ≠ 0 ∧ d.latch = 0) := by
      rintro ⟨nonzero, low⟩
      exact rests ⟨Profile.offset_of_latch named, nonzero, level.symm.trans low⟩
    rw [Device.write_latch streams rfl, Device.setLatch, if_neg still]
    exact ⟨rfl, rfl⟩
  · have same := d.sameLatch_write named value
    exact ⟨same.active latches, same.pulses⟩

namespace Device

/-- Whether a write hands inputs over to be executed: a feed, while the command is to execute and a drain is armed. -/
def Executes (d : Device) (pair : Dispatchers) (w : Write) (drain : Drain) : Prop :=
  pair.Commits .read w ∧ d.command = d.profile.block.execute ∧ d.drain = some drain

/-- What a write puts into memory are results that are made with these weights. It puts nothing there unless it hands
inputs over to be executed, and then all that they come to goes into the drain. -/
structure MultipliesBy (d : Device) (weights : Operand) (pair : Dispatchers) (w : Write) : Prop where
  executes : ∀ drain, d.Executes pair w drain →
    d.write w.1 w.2 =
      ({ d with reader.descriptor.control := w.2, drain := none, active := weights } : Device).stream
        d.reader.descriptor.readAddress d.reader.descriptor.length.toNat drain.sink drain.length.toNat ∧
    StreamsExactly { d with active := weights } (d.write w.1 w.2) d.reader.descriptor.readAddress
      d.reader.descriptor.length.toNat drain.sink drain.length.toNat
  rests : (∀ drain, ¬ d.Executes pair w drain) → (d.write w.1 w.2).memory = d.memory

theorem multipliesBy_active (shipped : d.profile ∈ Profile.all) (streams : d.profile.Streams pair) (w : Write) :
    d.MultipliesBy d.active pair w where
  executes drain feeds := by
    obtain ⟨offset, value⟩ := w
    obtain ⟨⟨place, go⟩, executes, armed⟩ := feeds
    obtain rfl : offset = pair.commitOffset .read := place
    exact ⟨write_feed streams executes armed go, (streamsExactly_feed streams executes armed go).2⟩
  rests none := by
    rcases d.write_cases shipped w.1 w.2 with same | ⟨_, _, _, opens, -⟩
    · exact same
    · cases opens with
      | @feed other drain has commits executes armed =>
        obtain rfl := streams.unique has
        exact absurd ⟨commits, executes, armed⟩ (none drain)
      | integrated _ has =>
        rw [streams.integrated] at has
        nomatch has

end Device

theorem Profile.touched_latched (latches : p.Latched) (streams : p.Streams pair) (shipped : p ∈ all) (size : Nat)
    (h : List Touch) :
    (p.touched size h).active = (p.latched size h).headD (.fill 0) ∧
      (p.touched size h).latchPulses = (p.latched size h).length := by
  induction h with
  | nil => exact ⟨rfl, rfl⟩
  | cons t earlier ih =>
    have handled := handled_touched shipped size earlier
    cases t with
    | write w =>
      by_cases lifts : p.Lifts (writesOf earlier) w
      · obtain ⟨active, pulses⟩ := handled.write_lifts streams lifts
        rw [latched, if_pos lifts]
        exact ⟨active, pulses.trans (congrArg (· + 1) ih.2)⟩
      · obtain ⟨active, pulses⟩ := handled.write_rests latches streams lifts
        rw [latched, if_neg lifts]
        exact ⟨active.trans ih.1, pulses.trans ih.2⟩
    | store | clear | faults => exact ih

/-- Whatever a host does by hand to a board that streams, and in whatever order: the weights in use are those that
waited when the latch last rose, or none but zeros if it never did, and its rises are counted. Nothing but a rise
changes which weights are in use, and whatever is executed is multiplied by these. -/
theorem Profile.weights_latched (shipped : p ∈ all) (streaming : p.dispatchers = some pair) (size : Nat)
    (h : List Touch) :
    let d := p.touched size h
    let weights := (p.latched size h).headD (.fill 0)
    d.active = weights ∧ d.latchPulses = (p.latched size h).length ∧
    (∀ t, (∀ w, t = .write w → ¬ p.Lifts (writesOf h) w) → (d.touch t).active = weights) ∧
    ∀ w, d.MultipliesBy weights pair w := by
  intro d weights
  have streams := streams_of_shipped shipped streaming
  have latches := latched_of_shipped p shipped
  have handled := handled_touched shipped size h
  obtain ⟨active, pulses⟩ := touched_latched latches streams shipped size h
  have active : d.active = weights := active
  refine ⟨active, pulses, ?_, ?_⟩
  · intro t rests
    cases t with
    | write w => exact (handled.write_rests latches streams (rests w rfl)).1.trans active
    | store | clear | faults => exact active
  · intro w
    have profile : d.profile = p := handled.profile
    rw [← active]
    exact d.multipliesBy_active (profile.symm ▸ shipped) (profile.symm ▸ streams) w

/-- Weights are fed and latched, others are fed while the latch stays high, and the session is reset. Then a row is fed
to be executed, of which the first element is one. -/
theorem high_latch_keeps_weights :
    let feed (source length : UInt32) : List Touch :=
      [.write (0x3104c, 0x80000000), .write (0x31048, length), .write (0x31040, source)]
    let drain : List Touch := [.write (0x3105c, 0x80000000), .write (0x31058, 32), .write (0x31054, 0x200000a0)]
    let stored : List Touch := [.store 0x80 [1], .store 0x40 [9], .store 0 [7]]
    let reset : List Touch := [.write (0x3001c, 0), .write (0x31004, 2), .write (0x30000, 0)]
    let h := (feed 0x20000080 8).tail ++ .write (0x30000, 1) :: .write (0x30018, 1) :: drain ++ reset ++
      .write (0x3001c, 5) :: feed 0x20000040 64 ++ .write (0x3001c, 2) :: feed 0x20000000 64 ++
      .write (0x30000, 3) :: stored
    let d := Profile.hpsMsgdma.touched 0x100 h
    (Profile.hpsMsgdma ∈ Profile.all ∧ Profile.hpsMsgdma.dispatchers = some (Profile.streamingEngines .hps)) ∧
      (d.active.get 0 7 = 7 ∧ d.shadow.get 0 7 = 9 ∧ d.latchPulses = 1) ∧
      (d.write 0x3104c 0x80000000).memory.byte 0xbb = 7 := by
  intro feed drain stored reset h d
  obtain ⟨active, pulses, -, multiplies⟩ := Profile.weights_latched (p := .hpsMsgdma) (by decide) rfl 0x100 h
  have executes : d.Executes (Profile.streamingEngines .hps) (0x3104c, 0x80000000) ⟨0x200000a0, 32⟩ :=
    ⟨by decide, by decide, by decide⟩
  obtain ⟨streamed, -⟩ := (multiplies (0x3104c, 0x80000000)).executes _ executes
  refine ⟨⟨by decide, rfl⟩, ⟨?_, ?_, ?_⟩, ?_⟩
  · rw [show d.active = _ from active]
    decide +kernel
  · decide +kernel
  · rw [show d.latchPulses = _ from pulses]
    decide
  · rw [show d.write 0x3104c 0x80000000 = _ from streamed]
    decide +kernel

end Systolic
