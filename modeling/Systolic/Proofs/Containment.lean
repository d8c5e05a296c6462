import Systolic.Proofs.Bounds
import Systolic.Proofs.DeviceWrites
import Systolic.Proofs.Multiply
import Systolic.Proofs.Protocol

namespace Systolic

/-- Only the oldest board has an engine inside its control block. Where results go is not kept in its write
control. -/
theorem Profile.legacy_of_integrated {p : Profile} {dma : IntegratedDma} (shipped : p ∈ all)
    (has : p.integrated = some dma) :
    p = niosLegacy ∧ p.block.offset dma.writeControl ≠ p.block.offset dma.writeAddress := by
  simp only [all, List.mem_cons, List.not_mem_nil, or_false] at shipped
  rcases shipped with rfl | rfl | rfl
  · exact absurd has.symm (Option.some_ne_none dma)
  · exact absurd has.symm (Option.some_ne_none dma)
  · obtain rfl := Option.some.inj has
    exact ⟨rfl, by decide⟩

namespace Device

/-- What a write lets results into: the bytes from a sink on, as many as there is room for. Either it hands over
inputs while a drain is armed, or it starts both halves of the engine inside the control block. -/
inductive Opens (d : Device) (offset : Nat) (value : UInt32) : UInt32 → Nat → Prop
  | feed {pair : Dispatchers} {drain : Drain} (streams : d.profile.dispatchers = some pair)
      (commits : pair.Commits .read (offset, value)) (executes : d.command = d.profile.block.execute)
      (armed : d.drain = some drain) : Opens d offset value drain.sink drain.length.toNat
  | integrated {dma : IntegratedDma} (legacy : d.profile = .niosLegacy) (has : d.profile.integrated = some dma)
      (control : offset = d.profile.block.offset dma.writeControl)
      (starts : value &&& (IntegratedDma.startRead ||| IntegratedDma.startWrite) =
        IntegratedDma.startRead ||| IntegratedDma.startWrite)
      (executes : d.command = d.profile.block.execute) :
      Opens d offset value (d.word dma.writeAddress) (4 * (value &&& IntegratedDma.lengthMask).toNat)

/-- A device after another one, with the same memory but for the results of some rows, all of them in the room
there is at the sink. -/
structure Filled (d d' : Device) (sink : UInt32) (room rows : Nat) : Prop where
  fits : 32 * rows ≤ room
  counted : d'.rowsStreamed = d.rowsStreamed + rows
  size : d'.memory.size = d.memory.size
  inside : ∀ i, d'.memory.byte i ≠ d.memory.byte i → sink.toNat ≤ d.profile.busBase.toNat + i ∧
    d.profile.busBase.toNat + i < sink.toNat + 32 * rows ∧ i < d.memory.size

variable {d d' : Device} {sink : UInt32} {room rows : Nat}

theorem Filled.refl (d : Device) (sink : UInt32) (room : Nat) : Filled d d sink room 0 where
  fits := Nat.zero_le room
  counted := rfl
  size := rfl
  inside _ changed := absurd rfl changed

/-- A stream fills the room at its sink, as far as rows pass, or does nothing. -/
theorem filled_stream (d : Device) (source : UInt32) (len : Nat) (sink : UInt32) (room : Nat) :
    ∃ rows, Filled d (d.stream source len sink room) sink room rows := by
  have fits := (rowsPassing_le d.rowLimit len room).2
  unfold stream
  dsimp only
  split
  · exact ⟨0, .refl d sink room⟩
  · cases d.offset? source len with
    | none => exact ⟨0, .refl d sink room⟩
    | some s =>
      cases dst : d.offset? sink (32 * rowsPassing d.rowLimit len room) with
      | none => exact ⟨0, .refl d sink room⟩
      | some t =>
        obtain ⟨above, rfl, inside⟩ := holds_of_offset? dst
        refine ⟨rowsPassing d.rowLimit len room, fits, rfl, size_multiply .., ?_⟩
        intro i changed
        have within : ¬ (i < sink.toNat - d.profile.busBase.toNat ∨
            sink.toNat - d.profile.busBase.toNat + 32 * rowsPassing d.rowLimit len room ≤ i) :=
          fun outside => changed (byte_multiply_outside d.active s len d.memory outside)
        omega

/-- A feed fills an armed drain while the command is to execute, and otherwise leaves memory alone. -/
theorem feed_cases (d : Device) (source : UInt32) (len : Nat) :
    (d.feed source len).memory = d.memory ∨
      d.command = d.profile.block.execute ∧ ∃ drain rows, d.drain = some drain ∧
        Filled d (d.feed source len) drain.sink drain.length.toNat rows := by
  unfold feed
  split
  · left
    unfold takeWeights
    split <;> rfl
  · split
    · rename_i executes
      cases armed : d.drain with
      | none => exact .inl rfl
      | some drain =>
        obtain ⟨rows, filled⟩ := filled_stream { d with drain := none } source len drain.sink drain.length.toNat
        exact .inr ⟨executes, drain, rows, rfl, filled.fits, filled.counted, filled.size, filled.inside⟩
    · exact .inl rfl

/-- A descriptor touches memory only if it says go and feeds an armed drain. -/
theorem commit_cases (d : Device) (direction : Direction) :
    (d.commit direction).memory = d.memory ∨
      ∃ pair drain rows, direction = .read ∧ d.profile.dispatchers = some pair ∧
        d.reader.descriptor.control &&& pair.flags.go ≠ 0 ∧ d.command = d.profile.block.execute ∧
        d.drain = some drain ∧ Filled d (d.commit direction) drain.sink drain.length.toNat rows := by
  unfold commit
  dsimp only
  cases d.profile.dispatchers with
  | none => exact .inl rfl
  | some pair =>
    dsimp only
    split
    · exact .inl rfl
    · rename_i go
      cases direction with
      | write => exact .inl rfl
      | read =>
        rcases d.feed_cases d.reader.descriptor.readAddress d.reader.descriptor.length.toNat with
          kept | ⟨executes, drain, rows, armed, filled⟩
        · exact .inl kept
        · exact .inr ⟨pair, drain, rows, rfl, rfl, go, executes, armed, filled⟩

theorem memory_setEngine (d : Device) (direction : Direction) (e : EngineState) :
    (d.setEngine direction e).memory = d.memory := by
  cases direction <;> rfl

theorem startIntegrated_cases (d : Device) (dma : IntegratedDma) (value : UInt32) :
    (d.startIntegrated dma value).memory = d.memory ∨
      value &&& (IntegratedDma.startRead ||| IntegratedDma.startWrite) =
        IntegratedDma.startRead ||| IntegratedDma.startWrite ∧
      d.command = d.profile.block.execute ∧ ∃ rows, Filled d (d.startIntegrated dma value)
        (d.word dma.writeAddress) (4 * (value &&& IntegratedDma.lengthMask).toNat) rows := by
  unfold startIntegrated
  dsimp only
  split
  · exact .inl rfl
  · rename_i starts
    split
    · rename_i executes
      obtain ⟨rows, filled⟩ := filled_stream
        { d with integratedStatus := d.integratedStatus &&& ~~~IntegratedDma.doneMask }
        (d.word dma.readAddress) (4 * (d.word dma.readLength).toNat) (d.word dma.writeAddress)
        (4 * (value &&& IntegratedDma.lengthMask).toNat)
      refine .inr ⟨Decidable.not_not.mp starts, executes, rows, ?_⟩
      split <;> exact ⟨filled.fits, filled.counted, filled.size, filled.inside⟩
    · left
      split <;> rfl

theorem word_keep (d : Device) {offset index : Nat} (value : UInt32) (apart : offset ≠ d.profile.block.offset index) :
    (d.keep offset value).word index = d.word index := by
  show (d.registers.set offset value).get (d.profile.block.offset index) = _
  rw [Sparse.get_set, if_neg apart]
  rfl

/-- A write either leaves memory alone or fills what it opens. -/
theorem write_cases (d : Device) (shipped : d.profile ∈ Profile.all) (offset : Nat) (value : UInt32) :
    (d.write offset value).memory = d.memory ∨
      ∃ sink room rows, d.Opens offset value sink room ∧ Filled d (d.write offset value) sink room rows := by
  unfold write
  split
  · exact .inl rfl
  · left
    unfold controlEngine
    split
    · exact memory_setEngine _ _ _
    · exact memory_setEngine _ _ _
  · rename_i direction byte named
    obtain ⟨pair, streams, place⟩ := Profile.offset_of_descriptor named
    unfold setDescriptorByte
    dsimp only
    split
    · rename_i last
      obtain rfl : byte = 12 := Fin.ext last
      rcases commit_cases (d.setEngine direction { d.engine direction with
          descriptor := (d.engine direction).descriptor.setWord (Descriptor.wordOf 12) value }) direction with
        kept | ⟨other, drain, rows, rfl, has, go, executes, armed, filled⟩
      · exact .inl (kept.trans (memory_setEngine _ _ _))
      · obtain rfl : other = pair := Option.some.inj (has.symm.trans streams)
        exact .inr ⟨drain.sink, drain.length.toNat, rows, .feed streams ⟨place, go⟩ executes armed, filled.fits,
          filled.counted, filled.size, filled.inside⟩
    · exact .inl (memory_setEngine _ _ _)
  · exact .inl rfl
  · left
    unfold setLatch
    split <;> rfl
  · rename_i named
    obtain ⟨dma, has, place⟩ := Profile.offset_of_writeControl named
    obtain ⟨legacy, apart⟩ := Profile.legacy_of_integrated shipped has
    rw [has]
    dsimp only
    rcases (d.keep offset value).startIntegrated_cases dma value with kept | ⟨starts, executes, rows, filled⟩
    · exact .inl kept
    · rw [word_keep d value (place ▸ apart)] at filled
      exact .inr ⟨_, _, rows, .integrated legacy has place starts executes, filled.fits, filled.counted,
        filled.size, filled.inside⟩
  · left
    split
    · unfold strobe
      dsimp only
      repeat' split
      all_goals rfl
    · rfl
  all_goals exact .inl rfl

theorem size_write (d : Device) (shipped : d.profile ∈ Profile.all) (offset : Nat) (value : UInt32) :
    (d.write offset value).memory.size = d.memory.size := by
  rcases d.write_cases shipped offset value with same | ⟨_, _, _, -, filled⟩
  · rw [same]
  · exact filled.size

/-- Whatever a device has been told before, a write to it finds every byte that it reaches for and leaves memory
as long as it was. What it changes of memory are results, in the room of an armed drain or of the write control
itself. A read changes nothing. -/
theorem writes_contained (d : Device) (shipped : d.profile ∈ Profile.all) (offset : Nat) (value : UInt32) :
    d.write? offset value = some (d.write offset value) ∧
    (d.write offset value).memory.size = d.memory.size ∧
    ((d.write offset value).memory = d.memory ∨
      ∃ sink room rows, d.Opens offset value sink room ∧ Filled d (d.write offset value) sink room rows) ∧
    ∀ timing place, (board timing).read d place = some (d.read place, d) := by
  exact ⟨d.write?_eq offset value, d.size_write shipped offset value, d.write_cases shipped offset value,
    fun _ _ => rfl⟩

/-- A feed of a row and three bytes more, at the very end of memory, with room for almost three rows: the row
passes, and what changes is in that room. -/
theorem ragged_feed_contained :
    let d : Device := { fresh .niosMsgdma ((Memory.zeroed 0x100).store 0xf5 [1, 2, 3]) with
      command := 1
      drain := some ⟨0x200000a0, 95⟩
      reader := ⟨0, ⟨0x200000f5, 0, 11, 0⟩⟩
      active := .identity }
    let fed := d.write 0x3104c 0x80000000
    d.profile ∈ Profile.all ∧ d.write? 0x3104c 0x80000000 = some fed ∧ fed.memory.size = d.memory.size ∧
      (∃ rows, Filled d fed 0x200000a0 95 rows) ∧
      ∀ timing place, (board timing).read d place = some (d.read place, d) := by
  intro d fed
  have shipped : d.profile ∈ Profile.all := by decide
  obtain ⟨found, size, cases, reads⟩ := d.writes_contained shipped 0x3104c 0x80000000
  refine ⟨shipped, found, size, ?_, reads⟩
  rcases cases with same | ⟨sink, room, rows, opens, filled⟩
  · have passed : fed.memory.byte 0xa3 = 2 := by decide +kernel
    have before : d.memory.byte 0xa3 = 0 := by decide +kernel
    rw [same, before] at passed
    nomatch passed
  · cases opens with
    | feed _ _ _ armed =>
      obtain rfl := Option.some.inj armed
      exact ⟨rows, filled⟩
    | integrated legacy => exact absurd legacy (by decide)

end Device

end Systolic
