import Systolic.Proofs.DeviceWrites

namespace Systolic

open Program

/-- Whether a write hands over a feed that the device has no use for: neither weights to be loaded nor
inputs that a drain waits for. -/
def Device.strays (d : Device) (offset : Nat) (value : UInt32) : Bool :=
  d.profile.register offset = .descriptor .read 12 &&
    (d.profile.dispatchers.any fun pair => value &&& pair.flags.go != 0) &&
    !(d.command = d.profile.block.loadWeights || d.command = d.profile.block.execute && d.drain.isSome)

/-- A device that does not take a feed it has no use for. -/
def Device.guarded (timing : Timing) : Board Device where
  read d offset := some (d.read offset, d)
  write d offset value := if d.strays offset value then none else some (d.write offset value)
  memory := Device.memory
  withMemory d memory := { d with memory }
  timing := timing

namespace Device

theorem guarded_answers (timing : Timing) : (guarded timing).Answers := fun d offset => ⟨d.read offset, rfl⟩

/-- A program that comes to its end on the guarded device has the same run on the device itself. -/
theorem runOn_guarded {α : Type} {program : Program α} {timing : Timing} {d d' : Device} {j j' : Journal} {a : α}
    (run : program.runOn (guarded timing) d j = ⟨some a, d', j'⟩) :
    program.runOn (board timing) d j = ⟨some a, d', j'⟩ := by
  induction program generalizing d j with
  | done => exact run
  | read offset next ih => exact ih _ run
  | write offset value next ih =>
    by_cases stray : d.strays offset value
    · simp [Program.runOn, guarded, stray] at run
    · refine ih (d := d.write offset value) ?_
      simpa [Program.runOn, guarded, stray] using run
  | load offset len next ih => exact ih _ run
  | store offset bytes next ih => exact ih (d := { d with memory := d.memory.store offset bytes }) run
  | clear offset len next ih => exact ih (d := { d with memory := d.memory.clear offset len }) run
  | time next ih => exact ih _ run
  | halt => simp [Program.runOn] at run

variable {timing : Timing} {d : Device} {p : Profile} {pair : Dispatchers}

/-- Writes pass the guard if the first of them do, and the others do after those. -/
theorem guarded_append {ws more : List Write} (first : (guarded timing).writeAll d ws = some (d.writeAll ws))
    (rest : (guarded timing).writeAll (d.writeAll ws) more = some ((d.writeAll ws).writeAll more)) :
    (guarded timing).writeAll d (ws ++ more) = some (d.writeAll (ws ++ more)) := by
  rw [Board.writeAll_append, first, writeAll_append]
  exact rest

theorem guarded_single {offset : Nat} {value : UInt32} (good : ¬ d.strays offset value) :
    (guarded timing).writeAll d [(offset, value)] = some (d.writeAll [(offset, value)]) := by
  show (if d.strays offset value then none else some (d.write offset value)).bind some = _
  rw [if_neg good]
  rfl

section Streams

variable (streams : p.Streams pair) (profile : d.profile = p)
include streams profile

theorem guarded_quiet (ws : List Write) (quiet : ∀ w ∈ ws, w.1 ≠ 0x3104c) :
    (guarded timing).writeAll d ws = some (d.writeAll ws) := by
  induction ws generalizing d with
  | nil => rfl
  | cons w ws ih =>
    have good : ¬ d.strays w.1 w.2 := by
      intro stray
      have feeds : d.profile.register w.1 = .descriptor .read 12 := by
        simp only [strays, Bool.and_eq_true, decide_eq_true_eq] at stray
        exact stray.1.1
      rw [profile] at feeds
      exact quiet w List.mem_cons_self (streams.offset_of_feed feeds)
    have later := ih ((d.profile_write w.1 w.2).trans profile) fun x member => quiet x (List.mem_cons_of_mem w member)
    exact guarded_append (guarded_single good) later

theorem not_strays (useful : d.command = 3 ∨ d.command = 1 ∧ d.drain.isSome) (offset : Nat) (value : UInt32) :
    ¬ d.strays offset value := by
  intro stray
  simp only [strays, profile, streams.loadWeights, streams.execute, Bool.and_eq_true, Bool.not_eq_true',
    Bool.or_eq_false_iff, decide_eq_false_iff_not] at stray
  obtain ⟨-, notLoad, notInputs⟩ := stray
  rcases useful with loads | ⟨executes, armed⟩
  · exact notLoad loads
  · simp [executes, armed] at notInputs

/-- A feed passes the guard if there are weights to be loaded or a drain waits for inputs. -/
theorem guarded_pushRead (useful : d.command = 3 ∨ d.command = 1 ∧ d.drain.isSome) (source length : UInt32) :
    (guarded timing).writeAll d ((pair.engine .read).pushWrites (.readStream pair.flags source length)) =
      some (d.writeAll ((pair.engine .read).pushWrites (.readStream pair.flags source length))) := by
  let words : List Write := [((pair.block .read).descriptor, source), ((pair.block .read).descriptor + 4, 0),
    ((pair.block .read).descriptor + 8, length)]
  have quiet : ∀ w ∈ words, w.1 ≠ 0x3104c := by simp [words, Dispatchers.block, streams.read]
  have given := writeAll_words streams profile .read source 0 length
  have good := fun e => not_strays (d := d.setEngine .read e) streams profile useful
    ((pair.block .read).descriptor + Descriptor.controlSlot) pair.flags.readStream
  refine guarded_append (guarded_quiet streams profile words quiet) ?_
  rw [given]
  exact guarded_single (good _)

theorem guarded_reset :
    (guarded timing).writeAll d (Sequencer.resetWrites p) = some (d.writeAll (Sequencer.resetWrites p)) := by
  rw [streams.resetWrites]
  exact guarded_quiet streams profile _ (by simp)

theorem guarded_load (weights : UInt32) (count : Nat) :
    (guarded timing).writeAll d (Sequencer.loadWrites p pair weights count) =
      some (d.writeAll (Sequencer.loadWrites p pair weights count)) := by
  have commanded : d.writeAll [(0x30000, 3)] = { d with command := 3 } := write_command streams profile 3
  rw [streams.loadWrites]
  refine guarded_append (guarded_quiet streams profile [(0x30000, 3)] (by simp)) ?_
  rw [commanded]
  refine guarded_append (guarded_pushRead (d := { d with command := 3 }) streams profile (.inl rfl) _ _) ?_
  have kept := fun ws => (profile_writeAll { d with command := 3 } ws).trans profile
  exact guarded_quiet streams (kept _) [(0x3001c, 1), (0x3001c, 0)] (by simp)

theorem guarded_arm (outputs : UInt32) (count : Nat) :
    (guarded timing).writeAll d (Sequencer.armWrites pair outputs count) =
      some (d.writeAll (Sequencer.armWrites pair outputs count)) := by
  rw [Sequencer.armWrites, streams.pushWrites_write]
  exact guarded_quiet streams profile _ (by simp)

theorem guarded_feed (armed : d.drain.isSome) (inputs : UInt32) {count : Nat} (fits : count * 64 < UInt32.size) :
    (guarded timing).writeAll d (Sequencer.feedWrites p pair inputs count) =
      some (d.writeAll (Sequencer.feedWrites p pair inputs count)) := by
  have counts : 8 * count < UInt32.size := by omega
  obtain ⟨registers, counted, -⟩ := writeAll_rows streams profile counts
  have commanded : ({ d with registers } : Device).writeAll [(0x30000, 1)] = { d with registers, command := 1 } :=
    write_command (d := { d with registers }) streams profile 1
  have rows : ∀ w ∈ p.rowWrites count, w.1 ≠ 0x3104c := by
    unfold Profile.rowWrites
    split <;> simp
  rw [streams.feedWrites]
  refine guarded_append (guarded_quiet streams profile _ rows) ?_
  rw [counted]
  refine guarded_append (guarded_quiet (d := { d with registers }) streams profile [(0x30000, 1)] (by simp)) ?_
  rw [commanded]
  exact guarded_pushRead (d := { d with registers, command := 1 }) streams profile (.inr ⟨rfl, armed⟩) _ _

end Streams

end Device

end Systolic
