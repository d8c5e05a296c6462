import Systolic.Proofs.DeviceWrites

namespace Systolic

open Sequencer

/-- A device after a session reset: parked, and where it has streaming engines with nothing left in these. All the
rest is as it was. -/
def Device.parked (d : Device) : Device :=
  match d.profile.dispatchers with
  | some _ => { d with command := 0, reader := ⟨0, .zero⟩, writer := ⟨0, .zero⟩, drain := none }
  | none => { d with command := 0 }

/-- But for the command and the engines a device is after a session reset as it was before. -/
theorem Device.parked_eq (d : Device) :
    ∃ reader writer drain, d.parked = { d with command := 0, reader, writer, drain } := by
  unfold parked
  cases d.profile.dispatchers with
  | none => exact ⟨d.reader, d.writer, d.drain, rfl⟩
  | some pair => exact ⟨⟨0, .zero⟩, ⟨0, .zero⟩, none, rfl⟩

@[simp] theorem Device.profile_parked (d : Device) : d.parked.profile = d.profile := by
  unfold parked
  cases d.profile.dispatchers <;> rfl

@[simp] theorem Device.parked_parked (d : Device) : d.parked.parked = d.parked := by
  have same := d.profile_parked
  unfold parked at same ⊢
  cases engines : d.profile.dispatchers with
  | none => simp only [engines]
  | some pair => simp only [engines]

/-- A sequencer after a session reset. -/
def Sequencer.rested (s : Sequencer) : Sequencer := { s with activity := .idle, lastCommand := some 0 }

/-- Without streaming engines nothing lies over the control word of the array. -/
theorem Device.write_bare {d : Device} (bare : d.profile.dispatchers = none) (value : UInt32) :
    d.write (d.profile.block.offset d.profile.block.control) value = { d with command := value } := by
  have command : d.profile.register (d.profile.block.offset d.profile.block.control) = .command := by
    rw [Profile.register, bare]
    exact if_pos rfl
  rw [write, command]

theorem Device.writeAll_resetWrites {d : Device} (shipped : d.profile ∈ Profile.all) :
    d.writeAll (resetWrites d.profile) = d.parked := by
  cases engines : d.profile.dispatchers with
  | some pair =>
    have emptied := writeAll_reset (d := d) (Profile.streams_of_shipped shipped engines) rfl
    rw [emptied, parked, engines]
  | none =>
    have twice : resetWrites d.profile = [(d.profile.block.offset d.profile.block.control, 0),
        (d.profile.block.offset d.profile.block.control, 0)] := by
      rw [resetWrites, engines]
      rfl
    have once := d.write_bare engines 0
    have again := ({ d with command := 0 } : Device).write_bare engines 0
    rw [twice, writeAll_cons, writeAll_cons, once, writeAll_nil, parked, engines]
    exact again

theorem Sequencer.reset_parks {s : Sequencer} {d : Device} (shipped : d.profile ∈ Profile.all)
    (same : s.profile = d.profile) (timing : Timing) (j : Journal) :
    ∃ r j', (s.perform reset).runOn (Device.board timing) d j = ⟨some (.ok r, s.rested), d.parked, j'⟩ ∧
      j'.writes = j.writes ++ resetWrites d.profile := by
  have issues : s.Issues reset (resetWrites d.profile) s.rested := by
    rw [← same]
    exact issues_reset s
  obtain ⟨r, j', run, made⟩ := issues.made timing d j
  rw [Device.writeAll_resetWrites shipped] at run
  exact ⟨r, j', run, made⟩

/-- Whatever a device is at, whatever is wrong with it and whatever the host takes to be going on, a session reset
parks the device and leaves the rest of it alone. A second one makes the same writes and changes nothing. -/
theorem Sequencer.reset_settles {p : Profile} (shipped : p ∈ Profile.all) {s : Sequencer} {d : Device}
    (sequencer : s.profile = p) (device : d.profile = p) (timing : Timing) (j : Journal) :
    ∃ r j', (s.perform reset).runOn (Device.board timing) d j = ⟨some (.ok r, s.rested), d.parked, j'⟩ ∧
      j'.writes = j.writes ++ resetWrites p ∧
      ∃ r' j'', (s.rested.perform reset).runOn (Device.board timing) d.parked j' =
          ⟨some (.ok r', s.rested), d.parked, j''⟩ ∧
        j''.writes = j'.writes ++ resetWrites p := by
  subst device
  obtain ⟨r, j', run, made⟩ := reset_parks shipped sequencer timing j
  have shippedStill : d.parked.profile ∈ Profile.all := by rwa [d.profile_parked]
  have sameStill : s.rested.profile = d.parked.profile := by rwa [d.profile_parked]
  obtain ⟨r', j'', again, madeAgain⟩ := reset_parks shippedStill sameStill timing j'
  rw [d.parked_parked] at again
  rw [d.profile_parked] at madeAgain
  exact ⟨r, j', run, made, r', j'', again, madeAgain⟩

/-- A board reset in the middle of a batch, with an engine that never comes out of its reset. -/
theorem Sequencer.stuck_reset_settles :
    let clean : Device :=
      { Device.fresh .hpsMsgdma (.zeroed 0x200) with
        faults := ⟨some (.stream .read), true, some (.stream .write)⟩, shadow := .fill 7, latchPulses := 3 }
    let amid : Device :=
      { clean with
        command := 1, reader := ⟨0, ⟨0x20000000, 0, 64, 0x8c000000⟩⟩
        writer := ⟨Csr.reset, ⟨0, 0x20000100, 256, 0x80c00000⟩⟩, drain := some ⟨0x20000100, 256⟩ }
    let s : Sequencer := ⟨.hpsMsgdma, .attempts 3, .executing 1, some 1⟩
    ∃ r j', (s.perform reset).runOn (Device.board (.steady 0)) amid .empty =
        ⟨some (.ok r, ⟨.hpsMsgdma, .attempts 3, .idle, some 0⟩), clean, j'⟩ ∧
      ∃ r' j'', (s.rested.perform reset).runOn (Device.board (.steady 0)) clean j' =
          ⟨some (.ok r', ⟨.hpsMsgdma, .attempts 3, .idle, some 0⟩), clean, j''⟩ ∧
        j''.writes = j'.writes ++ j'.writes := by
  intro clean amid s
  have shipped : Profile.hpsMsgdma ∈ Profile.all := List.mem_cons_self
  obtain ⟨r, j', run, made, r', j'', again, madeAgain⟩ :=
    reset_settles shipped (rfl : s.profile = _) (rfl : amid.profile = _) (.steady 0) .empty
  have whole : j'.writes = resetWrites .hpsMsgdma := made
  rw [← whole] at madeAgain
  exact ⟨r, j', run, r', j'', again, madeAgain⟩

end Systolic
