import Systolic.Proofs.Reports
import Systolic.Proofs.Transcript

namespace Systolic

open Sequencer Program

namespace Device

variable {d e : Device}

theorem offset?_congr (profile : d.profile = e.profile) (memory : d.memory = e.memory) (bus : UInt32) (len : Nat) :
    d.offset? bus len = e.offset? bus len := by
  unfold offset?
  rw [profile, memory]

/-- What a stream does to memory hangs on no more than this. -/
theorem memory_stream_congr (profile : d.profile = e.profile) (memory : d.memory = e.memory)
    (active : d.active = e.active) (limit : d.rowLimit = e.rowLimit) (source : UInt32) (len : Nat) (sink : UInt32)
    (room : Nat) : (d.stream source len sink room).memory = (e.stream source len sink room).memory := by
  unfold stream
  dsimp only
  rw [limit]
  split
  · exact memory
  · rw [offset?_congr profile memory, offset?_congr profile memory]
    split
    · rw [active, memory]
    · exact memory

/-- Weights that lie in shared memory are taken from there, whatever there was before them. -/
theorem shadow_takeWeights_congr (profile : d.profile = e.profile) (memory : d.memory = e.memory) {source : UInt32}
    {len : Nat} (settled : d.shadow = e.shadow ∨ 64 ≤ len ∧ (d.offset? source len).isSome) :
    (d.takeWeights source len).shadow = (e.takeWeights source len).shadow := by
  unfold takeWeights
  rw [← offset?_congr profile memory source len, ← memory]
  cases place : d.offset? source len with
  | none =>
    rcases settled with same | ⟨-, inside⟩
    · exact same
    · rw [place] at inside
      nomatch inside
  | some s =>
    dsimp only
    split
    · rename_i short
      rcases settled with same | ⟨whole, -⟩
      · exact same
      · omega
    · rfl

variable {d d' : Device}

/-- Two devices of one board that hold the same memory and the same drain, with the latch low between calls. -/
structure Alike (p : Profile) (d d' : Device) : Prop where
  profile : d.profile = p
  profile' : d'.profile = p
  memory : d.memory = d'.memory
  drain : d.drain = d'.drain
  low : d.latch = 0
  low' : d'.latch = 0

/-- Alike, and with the same weights. In all else they may differ: in commands, in descriptors, in what was kept in
registers, in what was counted. -/
structure Twins (p : Profile) (d d' : Device) : Prop extends Alike p d d' where
  shadow : d.shadow = d'.shadow
  active : d.active = d'.active

section Streams

variable {p : Profile} {pair : Dispatchers} (streams : p.Streams pair)
include streams

/-- Whatever two devices were in the middle of, a reset makes them alike, and leaves them their weights. -/
theorem alike_reset (profile : d.profile = p) (profile' : d'.profile = p) (memory : d.memory = d'.memory)
    (low : d.latch = 0) (low' : d'.latch = 0) :
    Alike p (d.writeAll (resetWrites p)) (d'.writeAll (resetWrites p)) := by
  rw [writeAll_reset streams profile, writeAll_reset streams profile']
  exact ⟨profile, profile', memory, rfl, low, low'⟩

theorem Twins.reset (twins : Twins p d d') : Twins p (d.writeAll (resetWrites p)) (d'.writeAll (resetWrites p)) where
  toAlike := alike_reset streams twins.profile twins.profile' twins.memory twins.low twins.low'
  shadow := by
    rw [writeAll_reset streams twins.profile, writeAll_reset streams twins.profile']
    exact twins.shadow
  active := by
    rw [writeAll_reset streams twins.profile, writeAll_reset streams twins.profile']
    exact twins.active

/-- A load makes twins of two devices that are alike if there are weights where it takes them from. -/
theorem Alike.loadWeights (alike : Alike p d d') (weights : UInt32) {count : Nat} (fits : count * 64 < UInt32.size)
    (settled : d.shadow = d'.shadow ∨ 64 ≤ count * 64 ∧ (d.offset? weights (count * 64)).isSome) :
    Twins p (d.writeAll (loadWrites p pair weights count)) (d'.writeAll (loadWrites p pair weights count)) := by
  obtain ⟨reader, shadow, taken, loaded⟩ := writeAll_load streams alike.profile alike.low weights fits
  obtain ⟨reader', shadow', taken', loaded'⟩ := writeAll_load streams alike.profile' alike.low' weights fits
  have same := shadow_takeWeights_congr (d := { d with command := 3, reader })
    (e := { d' with command := 3, reader := reader' }) (alike.profile.trans alike.profile'.symm) alike.memory
    settled
  rw [taken, taken'] at same
  rw [loaded, loaded']
  exact ⟨⟨alike.profile, alike.profile', alike.memory, alike.drain, alike.low, alike.low'⟩, same, same⟩

theorem Twins.arm (twins : Twins p d d') (outputs : UInt32) (count : Nat) :
    Twins p (d.writeAll (armWrites pair outputs count)) (d'.writeAll (armWrites pair outputs count)) ∧
      ∃ drain, (d.writeAll (armWrites pair outputs count)).drain = some drain := by
  obtain ⟨writer, armed⟩ := writeAll_arm streams twins.profile outputs count
  obtain ⟨writer', armed'⟩ := writeAll_arm streams twins.profile' outputs count
  rw [armed, armed']
  exact ⟨⟨⟨twins.profile, twins.profile', twins.memory, rfl, twins.low, twins.low'⟩, twins.shadow, twins.active⟩,
    _, rfl⟩

/-- A feed streams the same into both: it is told its row count anew, and all else that it goes by they share. -/
theorem Twins.feed (twins : Twins p d d') {drain : Drain} (armed : d.drain = some drain) (inputs : UInt32) {count : Nat}
    (fits : count * 64 < UInt32.size) :
    Twins p (d.writeAll (feedWrites p pair inputs count)) (d'.writeAll (feedWrites p pair inputs count)) := by
  obtain ⟨reader, registers, limit, fed⟩ := writeAll_feed streams twins.profile armed inputs fits
  obtain ⟨reader', registers', limit', fed'⟩ :=
    writeAll_feed streams twins.profile' (twins.drain.symm.trans armed) inputs fits
  have same := memory_stream_congr (d := { d with registers, command := 1, reader, drain := none })
    (e := { d' with registers := registers', command := 1, reader := reader', drain := none })
    (twins.profile.trans twins.profile'.symm) twins.memory twins.active (limit.trans limit'.symm) inputs (count * 64)
    drain.sink drain.length.toNat
  -- Only memory and the count of rows are the stream's doing, and the count may differ.
  obtain ⟨memory, rowsStreamed, streamed, -⟩ := stream_eq
    { d with registers, command := 1, reader, drain := none } inputs (count * 64) drain.sink drain.length.toNat
  obtain ⟨memory', rowsStreamed', streamed', -⟩ := stream_eq
    { d' with registers := registers', command := 1, reader := reader', drain := none } inputs (count * 64) drain.sink
      drain.length.toNat
  rw [streamed, streamed'] at same
  rw [fed, fed', streamed, streamed']
  exact ⟨⟨twins.profile, twins.profile', same, rfl, twins.low, twins.low'⟩, twins.shadow, twins.active⟩

/-- No call on twins makes them differ. -/
theorem Twins.call (twins : Twins p d d') {s s' : Sequencer} {c : Call} {ws : List Write} (sequencer : s.profile = p)
    (armed : ∀ count, s.activity = .drainArmed count → ∃ drain, d.drain = some drain) (effect : c.Effect s ws s') :
    Twins p (d.writeAll ws) (d'.writeAll ws) ∧
      ∀ count, s'.activity = .drainArmed count → ∃ drain, (d.writeAll ws).drain = some drain := by
  obtain rfl := sequencer
  cases effect with
  | reset => exact ⟨twins.reset streams, fun _ armed => nomatch armed⟩
  | loadWeights idle has positive fits =>
    obtain rfl := streams.unique has
    refine ⟨twins.loadWeights streams _ fits (.inl twins.shadow), ?_⟩
    intro count busy
    have busy : s.activity = .drainArmed count := busy
    rw [idle] at busy
    nomatch busy
  | arm idle has positive fits =>
    obtain rfl := streams.unique has
    obtain ⟨after, drain⟩ := twins.arm streams _ _
    exact ⟨after, fun _ _ => drain⟩
  | feed running has positive fits =>
    obtain rfl := streams.unique has
    obtain ⟨drain, armed⟩ := armed _ running
    exact ⟨twins.feed streams armed _ fits, fun _ armed => nomatch armed⟩
  | execute idle has positive fits =>
    obtain rfl := streams.unique has
    rw [writeAll_append, writeAll_append]
    obtain ⟨after, drain, armed⟩ := twins.arm streams _ _
    exact ⟨after.feed streams armed _ (by omega), fun _ armed => nomatch armed⟩
  | finish executing => exact ⟨twins, fun _ armed => nomatch armed⟩
  | runIntegrated has => exact absurd has (by simp [streams.integrated])
  | mac has => exact absurd has (by simp [streams.mac])

end Streams

end Device

/-- Calls come to these results on a device and leave it as `d'`, however long their waits take. -/
def Sequencer.Gives (s : Sequencer) (d : Device) (calls : List (PollLimit × Call))
    (rs : List (Except Failure Answer × Sequencer)) (d' : Device) : Prop :=
  ∀ timing j, ∃ j', (s.transcript calls).runOn (Device.board timing) d j = ⟨some rs, d', j'⟩

theorem Sequencer.gives_cons {s s' : Sequencer} {d d' d'' : Device} {limit : PollLimit} {c : Call}
    {r : Except Failure Answer} {calls : List (PollLimit × Call)} {rs : List (Except Failure Answer × Sequencer)}
    (first : ∀ timing j, ∃ j',
      ({ s with limit }.perform c.issue).runOn (Device.board timing) d j = ⟨some (r, s'), d', j'⟩)
    (rest : s'.Gives d' calls rs d'') : s.Gives d ((limit, c) :: calls) ((r, s') :: rs) d'' := by
  intro timing j
  obtain ⟨j', ran⟩ := first timing j
  obtain ⟨j'', others⟩ := rest timing j'
  refine ⟨j'', ?_⟩
  rw [transcript, Program.runOn_bind, ran]
  dsimp only
  rw [Program.runOn_bind, others]
  rfl

/-- One sequencer, and two devices that it cannot tell apart. -/
structure Twinned (p : Profile) (faults : Faults) (s : Sequencer) (d d' : Device) : Prop where
  driven : Driven p s.limit faults s d
  driven' : Driven p s.limit faults s d'
  twins : Device.Twins p d d'
  armed : ∀ count, s.activity = .drainArmed count → ∃ drain, d.drain = some drain

section Twinned

variable {p : Profile} {pair : Dispatchers} {faults : Faults} {s : Sequencer} {d d' : Device}

/-- A call whose polls are counted answers the same on any clock. -/
theorem Driven.gives {polls : Nat} (shipped : p ∈ Profile.all) (streams : p.Streams pair)
    (driven : Driven p (.attempts polls) faults s d) {c : Call} {ws : List Write} {s' : Sequencer}
    (effect : c.Effect s ws s') (timing : Timing) (j : Journal) :
    ∃ j', (s.perform c.issue).runOn (Device.board timing) d j =
      ⟨some (.ok (faults.answer (.attempts polls) (fun _ => .steady 0) c), s'), d.writeAll ws, j'⟩ := by
  obtain ⟨clocks, j', run⟩ := driven.ran shipped streams effect timing j
  rw [faults.answer_attempts polls clocks fun _ => .steady 0] at run
  exact ⟨j', run⟩

/-- A call gives the same on both and they remain twins. -/
theorem Twinned.call {polls : Nat} (shipped : p ∈ Profile.all) (streams : p.Streams pair)
    (twinned : Twinned p faults s d d') (counted : s.limit = .attempts polls) (c : Call) : ∃ r s' e e',
      (∀ timing j, ∃ j', (s.perform c.issue).runOn (Device.board timing) d j = ⟨some (r, s'), e, j'⟩) ∧
      (∀ timing j, ∃ j', (s.perform c.issue).runOn (Device.board timing) d' j = ⟨some (r, s'), e', j'⟩) ∧
      Twinned p faults s' e e' := by
  rcases c.outcome s with ⟨failure, nothing⟩ | ⟨ws, s', effect⟩
  · rw [nothing]
    exact ⟨.error failure, s, d, d', fun _ j => ⟨j, rfl⟩, fun _ j => ⟨j, rfl⟩, twinned⟩
  · obtain ⟨twins, armed⟩ := twinned.twins.call streams twinned.driven.sequencer twinned.armed effect
    have driven : Driven p (.attempts polls) faults s d := counted ▸ twinned.driven
    have driven' : Driven p (.attempts polls) faults s d' := counted ▸ twinned.driven'
    refine ⟨_, s', d.writeAll ws, d'.writeAll ws, driven.gives shipped streams effect,
      driven'.gives shipped streams effect, ?_, ?_, twins, armed⟩
    · rw [effect.keeps.2]
      exact twinned.driven.after effect
    · rw [effect.keeps.2]
      exact twinned.driven'.after effect

/-- Nor do any calls one after the other, whatever the polls they are allowed. -/
theorem Twinned.calls (shipped : p ∈ Profile.all) (streams : p.Streams pair) (twinned : Twinned p faults s d d')
    (calls : List (Nat × Call)) :
    ∃ rs e e', s.Gives d (calls.map (Prod.map .attempts id)) rs e ∧
      s.Gives d' (calls.map (Prod.map .attempts id)) rs e' ∧ Device.Twins p e e' := by
  induction calls generalizing s d d' with
  | nil => exact ⟨[], d, d', fun _ j => ⟨j, rfl⟩, fun _ j => ⟨j, rfl⟩, twinned.twins⟩
  | cons call calls ih =>
    obtain ⟨polls, c⟩ := call
    have limited : Twinned p faults { s with limit := .attempts polls } d d' :=
      ⟨twinned.driven.relimit _, twinned.driven'.relimit _, twinned.twins, twinned.armed⟩
    obtain ⟨r, s', e, e', first, first', after⟩ := limited.call shipped streams rfl c
    obtain ⟨rs, f, f', rest, rest', twins⟩ := ih after
    exact ⟨(r, s') :: rs, f, f', gives_cons first rest, gives_cons first' rest', twins⟩

end Twinned

section Reach

variable {p : Profile} {pair : Dispatchers} {size size' : Nat} {h h' : History} {s s' : Sequencer} {d d' : Device}

/-- After a reset and a load of weights that lie in shared memory no calls whose polls are counted tell one history from
another. -/
theorem Reach.loaded_alike (shipped : p ∈ Profile.all) (streams : p.dispatchers = some pair)
    (reach : Reach p size h s d) (reach' : Reach p size' h' s' d') (faults : d.faults = d'.faults)
    (memory : d.memory = d'.memory) (polls : Nat) {weights : UInt32} {count : Nat} (positive : 0 < count)
    (fits : count * 64 < UInt32.size) (inside : (d.offset? weights (count * 64)).isSome) (more : List (Nat × Call)) :
    let calls := ((polls, Call.reset) :: (polls, .loadWeights weights count) :: more).map (Prod.map .attempts id)
    ∃ rs e e', s.Gives d calls rs e ∧ s'.Gives d' calls rs e' ∧ Device.Twins p e e' := by
  intro calls
  have layout := Profile.streams_of_shipped shipped streams
  have coupled := reach.coupled layout
  have coupled' := reach'.coupled layout
  let limit : PollLimit := .attempts polls
  have driven := reach.driven limit
  have driven' : Driven p limit d.faults { s' with limit } d' := faults ▸ reach'.driven limit
  have resets : ∀ t : Sequencer, t.profile = p →
      Call.Effect { t with limit } .reset (resetWrites p) ⟨p, limit, .idle, some ControlBlock.idle⟩ := by
    rintro t rfl
    exact .reset
  have loads : Call.Effect ⟨p, limit, .idle, some ControlBlock.idle⟩ (.loadWeights weights count)
      (loadWrites p pair weights count) ⟨p, limit, .idle, some p.block.loadWeights⟩ :=
    .loadWeights rfl streams positive fits
  have anew := resets s coupled.sequencer
  have anew' := resets s' coupled'.sequencer
  have alike := Device.alike_reset layout coupled.device coupled'.device memory coupled.latch coupled'.latch
  have found : ((d.writeAll (resetWrites p)).offset? weights (count * 64)).isSome := by
    rw [Device.writeAll_reset layout coupled.device]
    exact inside
  have loaded : Twinned p d.faults ⟨p, limit, .idle, some p.block.loadWeights⟩
      ((d.writeAll (resetWrites p)).writeAll (loadWrites p pair weights count))
      ((d'.writeAll (resetWrites p)).writeAll (loadWrites p pair weights count)) :=
    ⟨(driven.after anew).after loads, (driven'.after anew').after loads,
      alike.loadWeights layout weights fits (.inr ⟨by omega, found⟩), fun _ armed => nomatch armed⟩
  -- The weights from before the reset may differ. They are gone with the load.
  obtain ⟨rs, e, e', rest, rest', twins⟩ := loaded.calls shipped layout more
  refine ⟨_, e, e', gives_cons (driven.gives shipped layout anew)
    (gives_cons ((driven.after anew).gives shipped layout loads) rest), ?_, twins⟩
  exact gives_cons (driven'.gives shipped layout anew')
    (gives_cons ((driven'.after anew').gives shipped layout loads) rest')

/-- A session does not see what went before it. Two devices with the same memory and the same faults, each with a
history of its own, are reset, take in weights that lie in shared memory, and run inputs through, with so many polls for
every wait: the same calls give the same, whether or not they fail, and leave the same memory, the same weights in use
and the same activity. -/
theorem Reach.session_isolated (shipped : p ∈ Profile.all) (streams : p.dispatchers = some pair)
    (reach : Reach p size h s d) (reach' : Reach p size' h' s' d') (faults : d.faults = d'.faults)
    (memory : d.memory = d'.memory) (polls : Nat) {weights : UInt32} {count : Nat} (positive : 0 < count)
    (fits : count * 64 < UInt32.size)
    (inside : p.busBase ≤ weights ∧ d.memory.Holds (weights.toNat - p.busBase.toNat) (count * 64))
    (inputs outputs : UInt32) (batch : Nat) :
    let calls := [Call.reset, .loadWeights weights count, .execute inputs outputs batch, .finish].map
      (PollLimit.attempts polls, ·)
    ∃ rs e e', s.Gives d calls rs e ∧ s'.Gives d' calls rs e' ∧ e.memory = e'.memory ∧ e.active = e'.active := by
  intro calls
  have found : (d.offset? weights (count * 64)).isSome := by
    unfold Device.offset?
    dsimp only
    rw [(reach.coupled (Profile.streams_of_shipped shipped streams)).device, if_pos inside]
    rfl
  obtain ⟨rs, e, e', run, run', twins⟩ := reach.loaded_alike shipped streams reach' faults memory polls positive fits
    found [(polls, .execute inputs outputs batch), (polls, .finish)]
  exact ⟨rs, e, e', run, run', twins.memory, twins.active⟩

end Reach

/-- A fresh board, and one whose array was stuck during a load and whose drain was armed and then left. -/
theorem abandoned_drain_forgotten :
    let s := Sequencer.start .hpsMsgdma (.attempts 3)
    let d := Device.fresh .hpsMsgdma (.zeroed 0x10000)
    let calls := [Call.reset, .loadWeights 0x20000000 1, .execute 0x20001000 0x20004000 2, .finish].map
      (PollLimit.attempts 3, ·)
    ∃ h s' d', Reach .hpsMsgdma 0x10000 h s' d' ∧ s'.activity = .drainArmed 2 ∧ d'.drain ≠ d.drain ∧
      ∃ rs e e', s.Gives d calls rs e ∧ s'.Gives d' calls rs e' ∧ e.memory = e'.memory ∧ e.active = e'.active := by
  intro s d calls
  let pair := Profile.streamingEngines .hps
  let stuck : Faults := { Faults.none with stuckBusy := true }
  have shipped : Profile.hpsMsgdma ∈ Profile.all := List.mem_cons_self
  have layout := Profile.streams_hpsMsgdma
  have one : 1 * 64 < UInt32.size := by decide
  have fresh : Reach .hpsMsgdma 0x10000 [] s d := .fresh (.attempts 3)
  obtain ⟨_, loaded⟩ := (fresh.faults stuck).effected shipped layout (c := .loadWeights 0x20000000 1)
    (.loadWeights rfl rfl (by decide) one)
  obtain ⟨reader, shadow, -, load⟩ := Device.writeAll_load (d := { d with faults := stuck }) layout rfl rfl 0x20000000 one
  have loads : ({ d with faults := stuck } : Device).writeAll (loadWrites s.profile pair 0x20000000 1) = _ := load
  rw [loads] at loaded
  let left : Device := { d with command := 3, reader, shadow, active := shadow, latchPulses := 1 }
  have cleared : Reach .hpsMsgdma 0x10000 _ _ left := loaded.faults .none
  obtain ⟨_, armed⟩ := cleared.effected shipped layout (c := .arm 0x20004000 2) (.arm rfl rfl (by decide) (by decide))
  obtain ⟨writer, arm⟩ := Device.writeAll_arm (d := left) layout rfl 0x20004000 2
  rw [arm] at armed
  have inside : Profile.hpsMsgdma.busBase ≤ 0x20000000 ∧ d.memory.Holds 0 (1 * 64) := ⟨by decide, by decide⟩
  have isolated := fresh.session_isolated shipped rfl armed rfl rfl 3 (by decide) one inside
    0x20001000 0x20004000 2
  exact ⟨_, _, _, armed, rfl, Option.some_ne_none _, isolated⟩

end Systolic
