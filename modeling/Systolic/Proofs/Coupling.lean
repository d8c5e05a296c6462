import Systolic.Proofs.Guard
import Systolic.Proofs.Outcome

namespace Systolic

open Sequencer Program

/-- The calls made on a sequencer, the latest first, each with what came of it. -/
abbrev History := List (Call × Except Failure Answer)

/-- Where the results were last to go, and how many of them. -/
def lastArm : History → Option (UInt32 × Nat)
  | [] => none
  | (.arm outputs count, .ok _) :: _ => some (outputs, count)
  | _ :: earlier => lastArm earlier

/-- The states of a sequencer and of the device it drives, from fresh ones on. Between calls the limit
of waits and the faults may be others, and the host may write to shared memory. -/
inductive Reach (p : Profile) (size : Nat) : History → Sequencer → Device → Prop
  | fresh (limit : PollLimit) : Reach p size [] (.start p limit) (.fresh p (.zeroed size))
  | call {t : Timing} {h s s' d d' j j' r} (reach : Reach p size h s d) (c : Call)
      (ran : (s.perform c.issue).runOn (Device.board t) d j = ⟨some (r, s'), d', j'⟩) :
      Reach p size ((c, r) :: h) s' d'
  | limit {h s d} (reach : Reach p size h s d) (limit : PollLimit) : Reach p size h { s with limit } d
  | faults {h s d} (reach : Reach p size h s d) (faults : Faults) : Reach p size h s { d with faults }
  | store {h s d offset bytes} (reach : Reach p size h s d) (inside : d.memory.Holds offset bytes.length) :
      Reach p size h s { d with memory := d.memory.store offset bytes }
  | clear {h s d offset len} (reach : Reach p size h s d) (inside : d.memory.Holds offset len) :
      Reach p size h s { d with memory := d.memory.clear offset len }

/-- What a sequencer and its device agree on. Between calls the latch is low. -/
structure Coupled (p : Profile) (size : Nat) (h : History) (s : Sequencer) (d : Device) : Prop where
  sequencer : s.profile = p
  device : d.profile = p
  command : d.command = s.lastCommand.getD 0
  latch : d.latch = 0
  size : d.memory.size = size
  armed : ∀ count, s.activity = .drainArmed count → count * 256 < UInt32.size ∧
    ∃ outputs, lastArm h = some (outputs, count) ∧ d.drain = some ⟨outputs, UInt32.ofNat (count * 256)⟩
  clear : (∀ count, s.activity ≠ .drainArmed count) → d.drain = none

namespace Coupled

variable {p : Profile} {pair : Dispatchers} {size : Nat} {h : History} {s : Sequencer} {d : Device}

theorem fresh (p : Profile) (size : Nat) (limit : PollLimit) :
    Coupled p size [] (.start p limit) (.fresh p (.zeroed size)) where
  sequencer := rfl
  device := rfl
  command := rfl
  latch := rfl
  size := rfl
  armed _ armed := nomatch armed
  clear _ := rfl

/-- No drain is armed when nothing is going on. -/
theorem no_drain (coupled : Coupled p size h s d) (idle : s.activity = .idle) : d.drain = none := by
  apply coupled.clear
  intro count armed
  rw [idle] at armed
  nomatch armed

section Streams

variable (streams : p.Streams pair)
include streams

theorem reset (coupled : Coupled p size h s d) (h' : History) :
    Coupled p size h' { s with lastCommand := some ControlBlock.idle, activity := .idle }
      (d.writeAll (resetWrites p)) := by
  rw [Device.writeAll_reset streams coupled.device]
  exact ⟨coupled.sequencer, coupled.device, rfl, coupled.latch, coupled.size, (fun _ armed => nomatch armed),
    fun _ => rfl⟩

theorem loadWeights (coupled : Coupled p size h s d) (h' : History) (idle : s.activity = .idle) (weights : UInt32)
    {count : Nat} (fits : count * 64 < UInt32.size) :
    Coupled p size h' { s with lastCommand := some p.block.loadWeights }
      (d.writeAll (loadWrites p pair weights count)) := by
  obtain ⟨reader, shadow, -, loaded⟩ := Device.writeAll_load streams coupled.device coupled.latch weights fits
  have none := coupled.no_drain idle
  rw [loaded]
  refine ⟨coupled.sequencer, coupled.device, ?_, coupled.latch, coupled.size, ?_, fun _ => none⟩
  · exact streams.loadWeights.symm
  · intro count armed
    have busy : s.activity = .drainArmed count := armed
    rw [idle] at busy
    nomatch busy

theorem arm (coupled : Coupled p size h s d) (outputs : UInt32) {count : Nat} (fits : count * 256 < UInt32.size)
    (answer : Answer) :
    Coupled p size ((.arm outputs count, .ok answer) :: h) { s with activity := .drainArmed count }
      (d.writeAll (armWrites pair outputs count)) := by
  obtain ⟨writer, drained⟩ := Device.writeAll_arm streams coupled.device outputs count
  rw [drained]
  refine ⟨coupled.sequencer, coupled.device, coupled.command, coupled.latch, coupled.size, ?_, ?_⟩
  · intro count armed
    obtain rfl := Activity.drainArmed.inj armed
    exact ⟨fits, outputs, rfl, rfl⟩
  · intro notArmed
    exact absurd rfl (notArmed count)

theorem feed (coupled : Coupled p size h s d) (h' : History) (inputs : UInt32) {count : Nat}
    (armed : s.activity = .drainArmed count) (fits : count * 64 < UInt32.size) :
    Coupled p size h' { s with lastCommand := some p.block.execute, activity := .executing count }
      (d.writeAll (feedWrites p pair inputs count)) := by
  obtain ⟨-, outputs, -, drain⟩ := coupled.armed count armed
  obtain ⟨reader, registers, -, fed⟩ := Device.writeAll_feed streams coupled.device drain inputs fits
  obtain ⟨memory, rowsStreamed, streamed, same⟩ := Device.stream_eq
    { d with registers, command := 1, reader, drain := none } inputs (count * 64) outputs
      (UInt32.ofNat (count * 256)).toNat
  rw [fed, streamed]
  exact ⟨coupled.sequencer, coupled.device, streams.execute.symm, coupled.latch, same.trans coupled.size,
    (fun _ armed => nomatch armed), fun _ => rfl⟩

end Streams

theorem finish (coupled : Coupled p size h s d) (h' : History) {count : Nat}
    (executing : s.activity = .executing count) : Coupled p size h' { s with activity := .idle } d where
  sequencer := coupled.sequencer
  device := coupled.device
  command := coupled.command
  latch := coupled.latch
  size := coupled.size
  armed _ armed := nomatch armed
  clear _ := by
    apply coupled.clear
    intro count armed
    rw [executing] at armed
    nomatch armed

theorem call (streams : p.Streams pair) (coupled : Coupled p size h s d) {s' : Sequencer} {c : Call}
    {ws : List Write} (effect : c.Effect s ws s') (answer : Answer) :
    Coupled p size ((c, .ok answer) :: h) s' (d.writeAll ws) := by
  obtain rfl := coupled.sequencer
  cases effect with
  | reset => exact coupled.reset streams _
  | loadWeights idle has positive fits =>
    obtain rfl := streams.unique has
    exact coupled.loadWeights streams _ idle _ fits
  | arm idle has positive fits =>
    obtain rfl := streams.unique has
    exact coupled.arm streams _ fits answer
  | feed armed has positive fits =>
    obtain rfl := streams.unique has
    exact coupled.feed streams _ _ armed fits
  | execute idle has positive fits =>
    obtain rfl := streams.unique has
    rw [Device.writeAll_append]
    exact (coupled.arm streams _ fits answer).feed streams _ _ rfl (by omega)
  | finish executing => exact coupled.finish _ executing
  | runIntegrated has => exact absurd has (by simp [streams.integrated])
  | mac has => exact absurd has (by simp [streams.mac])

/-- The device has a use for every feed of a call. -/
theorem guarded (streams : p.Streams pair) (coupled : Coupled p size h s d) {s' : Sequencer} {c : Call}
    {ws : List Write} (effect : c.Effect s ws s') (timing : Timing) :
    (Device.guarded timing).writeAll d ws = some (d.writeAll ws) := by
  obtain rfl := coupled.sequencer
  cases effect with
  | reset => exact Device.guarded_reset streams coupled.device
  | loadWeights idle has =>
    obtain rfl := streams.unique has
    exact Device.guarded_load streams coupled.device _ _
  | arm idle has =>
    obtain rfl := streams.unique has
    exact Device.guarded_arm streams coupled.device _ _
  | feed armed has positive fits =>
    obtain rfl := streams.unique has
    obtain ⟨-, outputs, -, drain⟩ := coupled.armed _ armed
    exact Device.guarded_feed streams coupled.device (by rw [drain]; rfl) _ fits
  | @execute pair' inputs outputs count idle has positive fits =>
    obtain rfl := streams.unique has
    obtain ⟨writer, drained⟩ := Device.writeAll_arm streams coupled.device outputs count
    have kept := (d.profile_writeAll (armWrites pair' outputs count)).trans coupled.device
    have smaller : count * 64 < UInt32.size := by omega
    refine Device.guarded_append (Device.guarded_arm streams coupled.device _ _) ?_
    exact Device.guarded_feed streams kept (by rw [drained]; rfl) _ smaller
  | finish executing => rfl
  | runIntegrated has => exact absurd has (by simp [streams.integrated])
  | mac has => exact absurd has (by simp [streams.mac])

/-- A call that fails leaves both as they were, and it is no arming of the drain either. -/
theorem refused (coupled : Coupled p size h s d) (c : Call) (e : Failure) :
    Coupled p size ((c, .error e) :: h) s d where
  sequencer := coupled.sequencer
  device := coupled.device
  command := coupled.command
  latch := coupled.latch
  size := coupled.size
  armed count armed := by
    have same : lastArm ((c, .error e) :: h) = lastArm h := by cases c <;> rfl
    rw [same]
    exact coupled.armed count armed
  clear := coupled.clear

end Coupled

/-- A call on the device fails and changes nothing, or it has its effect. -/
theorem Call.ran {timing : Timing} {s s' : Sequencer} {c : Call} {d d' : Device} {j j' : Journal}
    {r : Except Failure Answer} (ran : (s.perform c.issue).runOn (Device.board timing) d j = ⟨some (r, s'), d', j'⟩) :
    (∃ e, r = .error e ∧ s' = s ∧ d' = d) ∨
      ∃ ws answer, r = .ok answer ∧ c.Effect s ws s' ∧ d' = d.writeAll ws := by
  rcases c.outcome s with ⟨e, nothing⟩ | ⟨ws, after, effect⟩
  · rw [nothing] at ran
    obtain ⟨gave, rfl, -⟩ := Run.mk.inj ran
    obtain ⟨rfl, rfl⟩ := Prod.mk.inj (Option.some.inj gave)
    exact .inl ⟨e, rfl, rfl, rfl⟩
  · obtain ⟨_, j'', run, answer, rfl⟩ :=
      effect.issues.ends (Device.board_answers timing) (Device.board_writeAll timing d ws) j
    rw [run] at ran
    obtain ⟨gave, rfl, -⟩ := Run.mk.inj ran
    obtain ⟨rfl, rfl⟩ := Prod.mk.inj (Option.some.inj gave)
    exact .inr ⟨ws, answer, rfl, effect, rfl⟩

variable {p : Profile} {pair : Dispatchers} {size : Nat} {h : History} {s : Sequencer} {d : Device}

theorem Reach.coupled (streams : p.Streams pair) (reach : Reach p size h s d) : Coupled p size h s d := by
  induction reach with
  | fresh limit => exact .fresh p size limit
  | call _ c ran ih =>
    rcases Call.ran ran with ⟨e, rfl, rfl, rfl⟩ | ⟨ws, answer, rfl, effect, rfl⟩
    · exact ih.refused c e
    · exact ih.call streams effect answer
  | limit _ _ ih | faults _ _ ih =>
    exact ⟨ih.sequencer, ih.device, ih.command, ih.latch, ih.size, ih.armed, ih.clear⟩
  | store _ _ ih =>
    exact ⟨ih.sequencer, ih.device, ih.command, ih.latch, (Memory.size_store ..).trans ih.size, ih.armed, ih.clear⟩
  | clear _ _ ih =>
    exact ⟨ih.sequencer, ih.device, ih.command, ih.latch, (Memory.size_clear ..).trans ih.size, ih.armed, ih.clear⟩

/-- A streaming device and the sequencer that drives it stay in step: a drain is armed on the device just
when the sequencer holds one to be, with the place and the length that were asked for, and its command
is the last one given. No call ever feeds what the device has no use for. -/
theorem Reach.in_step (shipped : p ∈ Profile.all) (streams : p.dispatchers = some pair)
    (reach : Reach p size h s d) :
    (∀ count, s.activity = .drainArmed count ↔ ∃ outputs length, lastArm h = some (outputs, count) ∧
      d.drain = some ⟨outputs, length⟩ ∧ length.toNat = 256 * count) ∧
    (s.activity = .idle ∨ (∃ count, s.activity = .executing count) → d.drain = none) ∧
    d.command = s.lastCommand.getD 0 ∧
    ∀ (c : Call) (timing : Timing) (j : Journal), ∃ r d' j',
      (s.perform c.issue).runOn (Device.guarded timing) d j = ⟨some r, d', j'⟩ ∧
      (s.perform c.issue).runOn (Device.board timing) d j = ⟨some r, d', j'⟩ := by
  have layout := Profile.streams_of_shipped shipped streams
  have coupled := reach.coupled layout
  refine ⟨?_, ?_, coupled.command, ?_⟩
  · intro count
    constructor
    · intro armed
      obtain ⟨fits, outputs, last, drain⟩ := coupled.armed count armed
      refine ⟨outputs, _, last, drain, ?_⟩
      rw [UInt32.toNat_ofNat_of_lt' fits, Nat.mul_comm]
    · rintro ⟨outputs, length, last, drain, value⟩
      by_cases armed : ∃ other, s.activity = .drainArmed other
      · obtain ⟨other, armed⟩ := armed
        obtain ⟨-, outputs', last', -⟩ := coupled.armed other armed
        obtain ⟨-, rfl⟩ := Prod.mk.inj (Option.some.inj (last.symm.trans last'))
        exact armed
      · have none := coupled.clear fun other same => armed ⟨other, same⟩
        rw [none] at drain
        nomatch drain
  · intro inactive
    apply coupled.clear
    intro count armed
    rcases inactive with idle | ⟨other, executing⟩
    · rw [idle] at armed
      nomatch armed
    · rw [executing] at armed
      nomatch armed
  · intro c timing j
    rcases c.outcome s with ⟨e, nothing⟩ | ⟨ws, after, effect⟩
    · rw [nothing]
      exact ⟨_, _, _, rfl, rfl⟩
    · obtain ⟨a, j', run, -⟩ :=
        effect.issues.ends (Device.guarded_answers timing) (coupled.guarded layout effect timing) j
      exact ⟨a, _, j', run, Device.runOn_guarded run⟩

/-- On a fresh device, after a drain is armed for two results. -/
theorem armed_in_step :
    ∃ d, Reach .hpsMsgdma 0x10000 [(.arm 0x20004000 2, .ok .done)]
        { start .hpsMsgdma .default with activity := .drainArmed 2 } d ∧
      ∃ outputs length, lastArm [(.arm 0x20004000 2, .ok .done)] = some (outputs, 2) ∧
        d.drain = some ⟨outputs, length⟩ ∧ length.toNat = 256 * 2 := by
  have shipped : Profile.hpsMsgdma ∈ Profile.all := List.mem_cons_self
  have reach : Reach .hpsMsgdma 0x10000 _ _ _ :=
    .call (t := .steady 0) (j := .empty) (.fresh .default) (.arm 0x20004000 2) rfl
  obtain ⟨armed, -⟩ := reach.in_step shipped rfl
  exact ⟨_, reach, (armed 2).mp rfl⟩

end Systolic
