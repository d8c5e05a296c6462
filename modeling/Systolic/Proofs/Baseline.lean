import Systolic.Proofs.Codec
import Systolic.Proofs.Multiply
import Systolic.Proofs.RawWrites

namespace Systolic

open Sequencer

variable {p : Profile} {pair : Dispatchers} {size : Nat} {h : List Write} {s : Sequencer} {d : Device}
  {weights : UInt32} {count : Nat}

namespace Device

/-- The last of some matrices of weights that lie one after the other from a bus address on. -/
def lastMatrix (d : Device) (weights : UInt32) (count : Nat) : Operand :=
  Wire.ofWeights (d.memory.block (weights.toNat - d.profile.busBase.toNat + (count * 64 - 64)) 64)

/-- If memory holds the matrix as it is laid out for the array, it is read back. -/
theorem lastMatrix_staged {m : Memory} {offset k : Nat} (ms : List Operand) (bound : k < ms.length)
    (staged : d.memory = m.store offset (Wire.weightBatch ms))
    (place : weights.toNat - d.profile.busBase.toNat + (count * 64 - 64) = offset + 64 * k) :
    d.lastMatrix weights count = ms[k] := by
  rw [lastMatrix, place, staged, Wire.weightBatch, Memory.block_store m offset Wire.weights ms bound,
    Wire.ofWeights_weights]

/-- What a load makes of a device: it leaves the latch low and the last matrix in the shadow. That is in use too if the
latch was low before, and else the weights in use are the old ones. -/
structure Loaded (d : Device) (weights : UInt32) (count : Nat) (d' : Device) : Prop where
  profile : d'.profile = d.profile
  memory : d'.memory = d.memory
  latch : d'.latch = 0
  shadow : d'.shadow = d.lastMatrix weights count
  active : d'.active = if d.latch = 0 then d.lastMatrix weights count else d.active
  pulses : d'.latchPulses = if d.latch = 0 then d.latchPulses + 1 else d.latchPulses

section Streams

variable (streams : p.Streams pair) (profile : d.profile = p) (positive : 0 < count)
  (fits : count * 64 < UInt32.size) (inside : d.Reaches weights (count * 64))
include streams profile positive fits inside

theorem writeAll_brings :
    ∃ reader, d.writeAll ((0x30000, 3) :: (pair.engine .read).pushWrites
        (.readStream pair.flags weights (UInt32.ofNat (count * 64)))) =
      { d with command := 3, reader, shadow := d.lastMatrix weights count } := by
  obtain ⟨reader, shadow, taken, brought⟩ := writeAll_bring streams profile weights fits
  have last := shadow_takeWeights { d with command := 3, reader } weights positive
  have place : ({ d with command := 3, reader } : Device).offset? weights (count * 64) =
      some (weights.toNat - d.profile.busBase.toNat) := offset?_of_reaches inside
  have tail : 64 * (count - 1) = count * 64 - 64 := by omega
  rw [taken, place, tail] at last
  obtain rfl : shadow = d.lastMatrix weights count := last
  exact ⟨reader, brought⟩

theorem loaded : d.Loaded weights count (d.writeAll (loadWrites p pair weights count)) := by
  obtain ⟨reader, brought⟩ := writeAll_brings streams profile positive fits inside
  rw [streams.loadWrites, ← List.cons_append, writeAll_append, brought, writeAll_pulse streams (by exact profile)]
  exact ⟨rfl, rfl, rfl, rfl, rfl, rfl⟩

/-- Without the last of its writes a load leaves the latch up. -/
theorem writeAll_unfinished (low : d.latch = 0) :
    ∃ reader, d.writeAll (loadWrites p pair weights count).dropLast =
      { d with
        command := 3, reader, shadow := d.lastMatrix weights count, active := d.lastMatrix weights count, latch := 1
        latchPulses := d.latchPulses + 1 } := by
  obtain ⟨reader, brought⟩ := writeAll_brings streams profile positive fits inside
  have rises : (1 : UInt32) ≠ 0 ∧ d.latch = 0 := ⟨by decide, low⟩
  refine ⟨reader, ?_⟩
  rw [streams.loadWrites, ← List.cons_append, List.dropLast_append_of_ne_nil (by simp), writeAll_append, brought]
  exact (write_latch streams (by exact profile) 1).trans (if_pos rises)

end Streams

end Device

section Streams

variable (streams : p.Streams pair) (device : d.profile = p) (sequencer : s.profile = p) (positive : 0 < count)
  (fits : count * 64 < UInt32.size) (inside : d.Reaches weights (count * 64))
include streams device sequencer positive fits inside

/-- A load on an idle array is made and comes to its end, whatever its waits come to. -/
theorem Sequencer.load_runs (idle : s.activity = .idle) (timing : Timing) (j : Journal) :
    ∃ r d' j', (s.perform (loadWeights weights count)).runOn (Device.board timing) d j =
        ⟨some (.ok r, { s with lastCommand := some p.block.loadWeights }), d', j'⟩ ∧
      d.Loaded weights count d' := by
  subst sequencer
  obtain ⟨r, j', run, -⟩ := (issues_loadWeights weights idle streams.dispatchers positive fits).made timing d j
  exact ⟨r, _, j', run, Device.loaded streams device positive fits inside⟩

/-- After a session reset a load makes of a device what it would have made of it before. -/
theorem Sequencer.reset_load_runs (shipped : p ∈ Profile.all) (timing : Timing) (j : Journal) :
    ∃ r j₁, (s.perform reset).runOn (Device.board timing) d j = ⟨some (.ok r, s.rested), d.parked, j₁⟩ ∧
      ∃ r₁ d₁ j₂, (s.rested.perform (loadWeights weights count)).runOn (Device.board timing) d.parked j₁ =
          ⟨some (.ok r₁, { s.rested with lastCommand := some p.block.loadWeights }), d₁, j₂⟩ ∧
        d.Loaded weights count d₁ := by
  subst device
  obtain ⟨r, j₁, rests, -⟩ := reset_parks shipped sequencer timing j
  obtain ⟨reader, writer, drain, parked⟩ := d.parked_eq
  have loads := load_runs (s := s.rested) (d := { d with command := 0, reader, writer, drain }) streams rfl sequencer
    positive fits inside rfl timing j₁
  rw [← parked] at loads
  obtain ⟨r₁, d₁, j₂, run, loaded⟩ := loads
  rw [parked] at loaded
  exact ⟨r, j₁, rests, r₁, d₁, j₂, run, loaded.profile, loaded.memory, loaded.latch, loaded.shadow, loaded.active,
    loaded.pulses⟩

end Streams

/-- A session reset leaves the latch at whatever it was last given, and a load after it puts what it brings to use just
if that was zero. If it was not, the pulse of this load has no rise; it only lowers the latch, and the next load is the
first to take effect. -/
theorem Handled.load_after_reset (shipped : p ∈ Profile.all) (streams : p.dispatchers = some pair)
    (handled : Handled p size h d) (sequencer : s.profile = p) (positive : 0 < count)
    (fits : count * 64 < UInt32.size) (inside : d.Reaches weights (count * 64)) (timing : Timing) (j : Journal) :
    ∃ r j₁, (s.perform reset).runOn (Device.board timing) d j = ⟨some (.ok r, s.rested), d.parked, j₁⟩ ∧
      ∃ r₁ s₁ d₁ j₂, (s.rested.perform (loadWeights weights count)).runOn (Device.board timing) d.parked j₁ =
          ⟨some (.ok r₁, s₁), d₁, j₂⟩ ∧
        d₁.shadow = d.lastMatrix weights count ∧ d₁.latch = 0 ∧
        d₁.active = (if (lastWritten h 0x3001c).getD 0 = 0 then d.lastMatrix weights count else d.active) ∧
        d₁.latchPulses = (if (lastWritten h 0x3001c).getD 0 = 0 then d.latchPulses + 1 else d.latchPulses) ∧
        ∃ r₂ s₂ d₂ j₃, (s₁.perform (loadWeights weights count)).runOn (Device.board timing) d₁ j₂ =
            ⟨some (.ok r₂, s₂), d₂, j₃⟩ ∧
          d₂.active = d.lastMatrix weights count ∧ d₂.latchPulses = d₁.latchPulses + 1 := by
  have layout := Profile.streams_of_shipped shipped streams
  have level := handled.latch layout
  have device := handled.profile
  obtain ⟨r, j₁, rests, r₁, d₁, j₂, loads, first⟩ :=
    reset_load_runs layout device sequencer positive fits inside shipped timing j
  have again : d₁.Reaches weights (count * 64) := by
    rw [Device.Reaches, first.profile, first.memory]
    exact inside
  obtain ⟨r₂, d₂, j₃, reloads, second⟩ := load_runs
    (s := { s.rested with lastCommand := some p.block.loadWeights }) layout (first.profile.trans device) sequencer
    positive fits again rfl timing j₂
  have same : d₁.lastMatrix weights count = d.lastMatrix weights count := by
    rw [Device.lastMatrix, first.profile, first.memory]
    rfl
  rw [← level]
  refine ⟨r, j₁, rests, r₁, _, d₁, j₂, loads, first.shadow, first.latch, first.active, first.pulses, r₂, _, d₂, j₃,
    reloads, ?_, ?_⟩
  · rw [second.active, if_pos first.latch, same]
  · rw [second.pulses, if_pos first.latch]

/-- The latch raised by hand: the first load after the reset is in the shadow only, the second one in use. -/
theorem raised_latch_delays_load :
    let memory := (Memory.zeroed 0x200).store 0x100 (Wire.weightBatch [Matrix.asymmetric 5, .identity])
    let raised := (Device.fresh .niosMsgdma memory).write 0x3001c 7
    let s := Sequencer.start .niosMsgdma (.attempts 3)
    ∃ r j₁, (s.perform reset).runOn (Device.board (.steady 0)) raised .empty =
        ⟨some (.ok r, s.rested), raised.parked, j₁⟩ ∧
      ∃ r₁ s₁ d₁ j₂, (s.rested.perform (loadWeights 0x20000100 2)).runOn (Device.board (.steady 0)) raised.parked j₁ =
          ⟨some (.ok r₁, s₁), d₁, j₂⟩ ∧
        d₁.shadow = .identity ∧ d₁.active = .fill 0 ∧ d₁.latchPulses = 1 ∧
        ∃ r₂ s₂ d₂ j₃, (s₁.perform (loadWeights 0x20000100 2)).runOn (Device.board (.steady 0)) d₁ j₂ =
            ⟨some (.ok r₂, s₂), d₂, j₃⟩ ∧
          d₂.active = .identity := by
  intro memory raised s
  have shipped : Profile.niosMsgdma ∈ Profile.all := by decide
  have layout := Profile.streams_niosMsgdma
  have sized : memory.size = 0x200 := Memory.size_store ..
  have handled : Handled .niosMsgdma 0x200 [(0x3001c, 7)] raised := (Handled.fresh.memory sized).write (0x3001c, 7)
  have up : raised = { Device.fresh .niosMsgdma memory with latch := 7, latchPulses := 1 } :=
    Device.write_latch layout rfl 7
  have inside : raised.Reaches 0x20000100 (2 * 64) := by
    rw [Device.Reaches, up]
    exact ⟨by decide, sized.symm ▸ by decide⟩
  have identity : raised.lastMatrix 0x20000100 2 = .identity :=
    Device.lastMatrix_staged (k := 1) [Matrix.asymmetric 5, .identity] (by decide) (congrArg Device.memory up)
      (by rw [up]; decide)
  obtain ⟨r, j₁, rests, r₁, s₁, d₁, j₂, loads, shadow, -, active, pulses, r₂, s₂, d₂, j₃, reloads, delayed, -⟩ :=
    handled.load_after_reset (s := s) shipped rfl rfl (by decide) (by decide) inside (.steady 0) .empty
  have stays : ¬ (lastWritten [(0x3001c, 7)] 0x3001c).getD 0 = 0 := by decide
  rw [if_neg stays, up] at active pulses
  exact ⟨r, j₁, rests, r₁, s₁, d₁, j₂, loads, shadow.trans identity, active, pulses, r₂, s₂, d₂, j₃, reloads,
    delayed.trans identity⟩

/-- A load given up before the last of its writes, and after a session reset the load of the matrix next to it. This
one ends well, and the array still multiplies by the first one. -/
theorem abandoned_load_outlives_reset :
    let memory := (Memory.zeroed 0x80).store 0 (Wire.weightBatch [.identity, Matrix.asymmetric 5])
    let writes : List Write := [(0x30000, 3), (0x31040, 0x20000000), (0x31044, 0), (0x31048, 64),
      (0x3104c, 0x8c000000), (0x3001c, 1)]
    let abandoned := (Device.fresh .hpsMsgdma memory).writeAll writes
    let s := Sequencer.start .hpsMsgdma (.attempts 3)
    writes = (loadWrites .hpsMsgdma (Profile.streamingEngines .hps) 0x20000000 1).dropLast ∧
    Handled .hpsMsgdma 0x80 writes.reverse abandoned ∧ abandoned.Reaches 0x20000040 (1 * 64) ∧
    ∃ r j₁, (s.perform reset).runOn (Device.board (.steady 0)) abandoned .empty =
        ⟨some (.ok r, s.rested), abandoned.parked, j₁⟩ ∧
      ∃ r₁ s₁ d₁ j₂, (s.rested.perform (loadWeights 0x20000040 1)).runOn (Device.board (.steady 0)) abandoned.parked
            j₁ =
          ⟨some (.ok r₁, s₁), d₁, j₂⟩ ∧
        d₁.active = .identity ∧ abandoned.lastMatrix 0x20000040 1 = .asymmetric 5 ∧
        d₁.active ≠ abandoned.lastMatrix 0x20000040 1 := by
  intro memory writes abandoned s
  have shipped : Profile.hpsMsgdma ∈ Profile.all := by decide
  have layout := Profile.streams_hpsMsgdma
  have sized : memory.size = 0x80 := Memory.size_store ..
  have handled : Handled .hpsMsgdma 0x80 writes.reverse abandoned := (Handled.fresh.memory sized).writeAll writes
  have one : 1 * 64 < UInt32.size := by decide
  have given : writes = (loadWrites .hpsMsgdma (Profile.streamingEngines .hps) 0x20000000 1).dropLast := by decide
  have near : (Device.fresh .hpsMsgdma memory).Reaches 0x20000000 (1 * 64) := by
    rw [Device.Reaches]
    exact ⟨by decide, sized.symm ▸ by decide⟩
  have far : (Device.fresh .hpsMsgdma memory).Reaches 0x20000040 (1 * 64) := by
    rw [Device.Reaches]
    exact ⟨by decide, sized.symm ▸ by decide⟩
  have first : (Device.fresh .hpsMsgdma memory).lastMatrix 0x20000000 1 = .identity :=
    Device.lastMatrix_staged (k := 0) [.identity, Matrix.asymmetric 5] (by decide) rfl (by decide)
  have second : (Device.fresh .hpsMsgdma memory).lastMatrix 0x20000040 1 = .asymmetric 5 :=
    Device.lastMatrix_staged (k := 1) [.identity, Matrix.asymmetric 5] (by decide) rfl (by decide)
  obtain ⟨reader, up⟩ := Device.writeAll_unfinished (d := .fresh .hpsMsgdma memory) layout rfl Nat.one_pos one near rfl
  rw [← given, first] at up
  change abandoned = _ at up
  have still : abandoned.Reaches 0x20000040 (1 * 64) := by
    rw [up]
    exact far
  have brought : abandoned.lastMatrix 0x20000040 1 = .asymmetric 5 := by
    rw [up]
    exact second
  obtain ⟨r, j₁, rests, r₁, d₁, j₂, loads, loaded⟩ := reset_load_runs (s := s) layout handled.profile rfl Nat.one_pos
    one still shipped (.steady 0) .empty
  have level : abandoned.latch = 1 := congrArg Device.latch up
  have active : d₁.active = .identity := by
    rw [loaded.active, if_neg (by rw [level]; decide)]
    exact congrArg Device.active up
  refine ⟨given, handled, still, r, j₁, rests, r₁, _, d₁, j₂, loads, active, brought, ?_⟩
  rw [active, brought]
  decide

end Systolic
