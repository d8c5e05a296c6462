import Systolic.Proofs.Codec
import Systolic.Proofs.Reports

namespace Systolic

open Sequencer Program

/-- How many loads of weights did not fail. -/
def loads : History → Nat
  | [] => 0
  | (.loadWeights .., .ok _) :: earlier => loads earlier + 1
  | _ :: earlier => loads earlier

/-- A call that was made: shared memory as the call found it, and what came of the call. -/
structure Deed where
  memory : Memory
  call : Call
  outcome : Except Failure Answer

namespace Deed

/-- What a history keeps of it. -/
def entry (a : Deed) : Call × Except Failure Answer := (a.call, a.outcome)

/-- The weights that it brought: the last 64 bytes of what a load was given, if that lay in shared memory as a
whole. -/
def weights? (p : Profile) (a : Deed) : Option Operand :=
  match a.call, a.outcome with
  | .loadWeights weights count, .ok _ =>
    let offset := weights.toNat - p.busBase.toNat
    if p.busBase ≤ weights ∧ a.memory.Holds offset (count * 64) then
      some (Wire.ofWeights (a.memory.block (offset + (count * 64 - 64)) 64))
    else none
  | _, _ => none

section Load

variable {p : Profile} {m : Memory} {source : UInt32} {count : Nat} {answer : Answer}

theorem weights?_inside
    (inside : p.busBase ≤ source ∧ m.Holds (source.toNat - p.busBase.toNat) (count * 64)) :
    weights? p ⟨m, .loadWeights source count, .ok answer⟩ =
      some (Wire.ofWeights (m.block (source.toNat - p.busBase.toNat + (count * 64 - 64)) 64)) :=
  if_pos inside

theorem weights?_outside
    (outside : ¬ (p.busBase ≤ source ∧ m.Holds (source.toNat - p.busBase.toNat) (count * 64))) :
    weights? p ⟨m, .loadWeights source count, .ok answer⟩ = none :=
  if_neg outside

end Load

end Deed

/-- The weights that were brought last, and none but zeros before there were any. -/
def lastWeights (p : Profile) (record : List Deed) : Operand :=
  (record.findSome? (Deed.weights? p)).getD (.fill 0)

/-- The states that are reached, with all that the calls up to there found in shared memory, the latest first. -/
inductive RecordedReach (p : Profile) (size : Nat) : List Deed → Sequencer → Device → Prop
  | fresh (limit : PollLimit) : RecordedReach p size [] (.start p limit) (.fresh p (.zeroed size))
  | call {t : Timing} {record s s' d d' j j' r} (reach : RecordedReach p size record s d) (c : Call)
      (ran : (s.perform c.issue).runOn (Device.board t) d j = ⟨some (r, s'), d', j'⟩) :
      RecordedReach p size (⟨d.memory, c, r⟩ :: record) s' d'
  | limit {record s d} (reach : RecordedReach p size record s d) (limit : PollLimit) :
      RecordedReach p size record { s with limit } d
  | faults {record s d} (reach : RecordedReach p size record s d) (faults : Faults) :
      RecordedReach p size record s { d with faults }
  | store {record s d offset bytes} (reach : RecordedReach p size record s d)
      (inside : d.memory.Holds offset bytes.length) :
      RecordedReach p size record s { d with memory := d.memory.store offset bytes }
  | clear {record s d offset len} (reach : RecordedReach p size record s d) (inside : d.memory.Holds offset len) :
      RecordedReach p size record s { d with memory := d.memory.clear offset len }

variable {p : Profile} {pair : Dispatchers} {size : Nat} {record : List Deed} {s : Sequencer} {d : Device}

/-- A record is more than a history of the same calls. -/
theorem RecordedReach.forget (reach : RecordedReach p size record s d) :
    Reach p size (record.map Deed.entry) s d := by
  induction reach with
  | fresh limit => exact .fresh limit
  | call _ c ran ih => exact ih.call c ran
  | limit _ limit ih => exact ih.limit limit
  | faults _ faults ih => exact ih.faults faults
  | store _ inside ih => exact ih.store inside
  | clear _ inside ih => exact ih.clear inside

/-- There is a record of every history. -/
theorem Reach.recorded {h : History} (reach : Reach p size h s d) :
    ∃ record, RecordedReach p size record s d ∧ record.map Deed.entry = h := by
  induction reach with
  | fresh limit => exact ⟨[], .fresh limit, rfl⟩
  | call _ c ran ih =>
    obtain ⟨record, recorded, rfl⟩ := ih
    exact ⟨_, recorded.call c ran, rfl⟩
  | limit _ limit ih =>
    obtain ⟨record, recorded, same⟩ := ih
    exact ⟨record, recorded.limit limit, same⟩
  | faults _ faults ih =>
    obtain ⟨record, recorded, same⟩ := ih
    exact ⟨record, recorded.faults faults, same⟩
  | store _ inside ih =>
    obtain ⟨record, recorded, same⟩ := ih
    exact ⟨record, recorded.store inside, same⟩
  | clear _ inside ih =>
    obtain ⟨record, recorded, same⟩ := ih
    exact ⟨record, recorded.clear inside, same⟩

/-- A call that passes its checks is one more deed. -/
theorem RecordedReach.effected (shipped : p ∈ Profile.all) (streams : p.Streams pair)
    (reach : RecordedReach p size record s d) {c : Call} {ws : List Write} {s' : Sequencer}
    (effect : c.Effect s ws s') :
    ∃ answer, RecordedReach p size (⟨d.memory, c, .ok answer⟩ :: record) s' (d.writeAll ws) := by
  obtain ⟨clocks, j', ran⟩ := (reach.forget.driven s.limit).ran shipped streams effect (.steady 0) .empty
  exact ⟨_, reach.call c ran⟩

theorem lastWeights_cons (p : Profile) (a : Deed) (record : List Deed) :
    lastWeights p (a :: record) = (a.weights? p).getD (lastWeights p record) := by
  unfold lastWeights
  rw [List.findSome?_cons]
  cases a.weights? p <;> rfl

namespace Device

/-- Whether a device has the weights that another one had, and got them by the same pulses. -/
structure SameWeights (d d' : Device) : Prop where
  shadow : d'.shadow = d.shadow
  active : d'.active = d.active
  pulses : d'.latchPulses = d.latchPulses

theorem SameWeights.trans {d d' d'' : Device} (first : SameWeights d d') (next : SameWeights d' d'') :
    SameWeights d d'' :=
  ⟨next.shadow.trans first.shadow, next.active.trans first.active, next.pulses.trans first.pulses⟩

section Streams

variable (streams : p.Streams pair) (profile : d.profile = p)
include streams profile

theorem sameWeights_reset : SameWeights d (d.writeAll (resetWrites p)) := by
  rw [writeAll_reset streams profile]
  exact ⟨rfl, rfl, rfl⟩

theorem sameWeights_arm (outputs : UInt32) (count : Nat) :
    SameWeights d (d.writeAll (armWrites pair outputs count)) := by
  obtain ⟨writer, armed⟩ := writeAll_arm streams profile outputs count
  rw [armed]
  exact ⟨rfl, rfl, rfl⟩

theorem sameWeights_feed {drain : Drain} (armed : d.drain = some drain) (inputs : UInt32) {count : Nat}
    (fits : count * 64 < UInt32.size) : SameWeights d (d.writeAll (feedWrites p pair inputs count)) := by
  obtain ⟨reader, registers, -, fed⟩ := writeAll_feed streams profile armed inputs fits
  obtain ⟨memory, rowsStreamed, streamed, -⟩ := stream_eq
    { d with registers, command := 1, reader, drain := none } inputs (count * 64) drain.sink drain.length.toNat
  rw [fed, streamed]
  exact ⟨rfl, rfl, rfl⟩

end Streams

end Device

/-- What the weights of a device are by the record. Between calls the shadow is the same as what is in use, so that
a pulse of the latch for weights that never came changes nothing. -/
structure WeightsBy (p : Profile) (record : List Deed) (d : Device) : Prop where
  shadow : d.shadow = d.active
  pulses : d.latchPulses = loads (record.map Deed.entry)
  active : d.active = lastWeights p record

namespace WeightsBy

/-- A call that neither brings weights nor pulses the latch leaves them as they are. -/
theorem untouched (weights : WeightsBy p record d) {d' : Device} (same : d.SameWeights d') {a : Deed}
    (quiet : loads (a.entry :: record.map Deed.entry) = loads (record.map Deed.entry))
    (brings : a.weights? p = none) : WeightsBy p (a :: record) d' where
  shadow := by rw [same.shadow, same.active, weights.shadow]
  pulses := by rw [same.pulses, weights.pulses, List.map_cons, quiet]
  active := by
    rw [same.active, weights.active, lastWeights_cons, brings]
    rfl

/-- A load brings its last matrix, or else it latches what was in use already. -/
theorem loadWeights (streams : p.Streams pair) (profile : d.profile = p) (low : d.latch = 0)
    (weights : WeightsBy p record d) (source : UInt32) {count : Nat} (positive : 0 < count)
    (fits : count * 64 < UInt32.size) (answer : Answer) :
    WeightsBy p (⟨d.memory, .loadWeights source count, .ok answer⟩ :: record)
      (d.writeAll (loadWrites p pair source count)) := by
  obtain ⟨reader, shadow, taken, loaded⟩ := Device.writeAll_load streams profile low source fits
  have last := Device.shadow_takeWeights { d with command := 3, reader } source positive
  rw [taken] at last
  have brought : shadow = lastWeights p (⟨d.memory, .loadWeights source count, .ok answer⟩ :: record) := by
    have tail : 64 * (count - 1) = count * 64 - 64 := by omega
    unfold Device.offset? at last
    dsimp only at last
    rw [profile] at last
    rw [lastWeights_cons]
    by_cases inside : p.busBase ≤ source ∧ d.memory.Holds (source.toNat - p.busBase.toNat) (count * 64)
    · rw [if_pos inside] at last
      rw [Deed.weights?_inside inside, ← tail]
      exact last
    · rw [if_neg inside] at last
      rw [Deed.weights?_outside inside]
      exact last.trans (weights.shadow.trans weights.active)
  rw [loaded]
  exact ⟨rfl, congrArg (· + 1) weights.pulses, brought⟩

/-- Only loads touch the weights, and every load that does not fail pulses the latch. -/
theorem call (streams : p.Streams pair) {h : History} (coupled : Coupled p size h s d) (weights : WeightsBy p record d)
    {s' : Sequencer} {c : Call} {ws : List Write} (effect : c.Effect s ws s') (answer : Answer) :
    WeightsBy p (⟨d.memory, c, .ok answer⟩ :: record) (d.writeAll ws) := by
  have device := coupled.device
  obtain rfl := coupled.sequencer
  cases effect with
  | reset => exact weights.untouched (Device.sameWeights_reset streams device) rfl rfl
  | loadWeights idle has positive fits =>
    obtain rfl := streams.unique has
    exact weights.loadWeights streams device coupled.latch _ positive fits answer
  | arm idle has positive fits =>
    obtain rfl := streams.unique has
    exact weights.untouched (Device.sameWeights_arm streams device _ _) rfl rfl
  | feed armed has positive fits =>
    obtain rfl := streams.unique has
    obtain ⟨-, outputs, -, drain⟩ := coupled.armed _ armed
    exact weights.untouched (Device.sameWeights_feed streams device drain _ fits) rfl rfl
  | @execute pair' inputs outputs count idle has positive fits =>
    obtain rfl := streams.unique has
    obtain ⟨writer, drained⟩ := Device.writeAll_arm streams device outputs count
    have kept := (d.profile_writeAll (armWrites pair' outputs count)).trans device
    have smaller : count * 64 < UInt32.size := by omega
    have fed := Device.sameWeights_feed streams kept (by rw [drained]) inputs smaller
    rw [Device.writeAll_append]
    exact weights.untouched ((Device.sameWeights_arm streams device _ _).trans fed) rfl rfl
  | finish executing => exact weights.untouched ⟨rfl, rfl, rfl⟩ rfl rfl
  | runIntegrated has => exact absurd has (by simp [streams.integrated])
  | mac has => exact absurd has (by simp [streams.mac])

theorem refused (weights : WeightsBy p record d) (c : Call) (e : Failure) :
    WeightsBy p (⟨d.memory, c, .error e⟩ :: record) d := by
  refine weights.untouched ⟨rfl, rfl, rfl⟩ ?_ ?_ <;> cases c <;> rfl

end WeightsBy

theorem RecordedReach.weights (streams : p.Streams pair) (reach : RecordedReach p size record s d) :
    WeightsBy p record d := by
  induction reach with
  | fresh limit => exact ⟨rfl, rfl, rfl⟩
  | call reach c ran ih =>
    rcases Call.ran ran with ⟨e, rfl, rfl, rfl⟩ | ⟨ws, answer, rfl, effect, rfl⟩
    · exact ih.refused c e
    · exact ih.call streams (reach.forget.coupled streams) effect answer
  | limit _ _ ih | faults _ _ ih | store _ _ ih | clear _ _ ih => exact ⟨ih.shadow, ih.pulses, ih.active⟩

/-- Between calls the latch is low, the weights in use are those beside them, and each load that did not fail has
pulsed the latch once, whatever its waits came to. In whichever way the state came about, the weights in use are the
last matrix of the last load whose range lay in shared memory as a whole, as memory stood when that load was made. -/
theorem Reach.weights_in_use {h : History} (shipped : p ∈ Profile.all) (streams : p.dispatchers = some pair)
    (reach : Reach p size h s d) :
    d.latch = 0 ∧ d.shadow = d.active ∧ d.latchPulses = loads h ∧
      (∃ record, RecordedReach p size record s d ∧ record.map Deed.entry = h) ∧
      ∀ record, RecordedReach p size record s d → d.active = lastWeights p record := by
  have layout := Profile.streams_of_shipped shipped streams
  obtain ⟨record, recorded, same⟩ := reach.recorded
  have weights := recorded.weights layout
  refine ⟨(reach.coupled layout).latch, weights.shadow, ?_, ⟨record, recorded, same⟩, ?_⟩
  · rw [weights.pulses, same]
  · intro other another
    exact (another.weights layout).active

/-- On a board whose array never rests: two matrices loaded, and then one from below shared memory. -/
theorem weights_after_stray_load :
    ∃ record s d, RecordedReach .hpsMsgdma 0x10000 record s d ∧ d.latch = 0 ∧ d.shadow = d.active ∧
      d.latchPulses = 2 ∧ d.active = .identity := by
  have shipped : Profile.hpsMsgdma ∈ Profile.all := List.mem_cons_self
  have layout := Profile.streams_hpsMsgdma
  let matrices := [Matrix.asymmetric 5, .identity]
  let staged := (Memory.zeroed 0x10000).store 0x100 (Wire.weightBatch matrices)
  have room : (Memory.zeroed 0x10000).Holds 0x100 (Wire.weightBatch matrices).length := by
    rw [Wire.length_weightBatch]
    decide
  have fresh : RecordedReach .hpsMsgdma 0x10000 [] _ _ := .fresh (.attempts 3)
  have stuck := (fresh.store room).faults { Faults.none with stuckBusy := true }
  obtain ⟨_, loaded⟩ := stuck.effected shipped layout (c := .loadWeights 0x20000100 2)
    (.loadWeights rfl rfl (by decide) (by decide))
  obtain ⟨_, strayed⟩ := loaded.effected shipped layout (c := .loadWeights 0x10000000 1)
    (.loadWeights rfl rfl (by decide) (by decide))
  obtain ⟨low, same, pulses, -, active⟩ := strayed.forget.weights_in_use shipped rfl
  refine ⟨_, _, _, strayed, low, same, pulses, (active _ strayed).trans ?_⟩
  have inside : Profile.hpsMsgdma.busBase ≤ 0x20000100 ∧ staged.Holds 0x100 (2 * 64) := by
    rw [Memory.Holds, Memory.size_store]
    decide
  have last : staged.block (0x100 + 64 * 1) 64 = Wire.weights .identity :=
    Memory.block_store _ _ Wire.weights matrices (k := 1) (by decide)
  rw [lastWeights_cons, Deed.weights?_outside (fun both => absurd both.1 (by decide)), Option.getD_none,
    lastWeights_cons]
  refine (congrArg (Option.getD · _) (Deed.weights?_inside inside)).trans ?_
  exact (congrArg Wire.ofWeights last).trans (Wire.ofWeights_weights .identity)

end Systolic
