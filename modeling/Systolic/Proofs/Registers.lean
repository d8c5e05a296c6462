import Systolic.Device
import Systolic.Proofs.Streams

namespace Systolic

theorem EngineBlock.register?_descriptor {b : EngineBlock} (direction : Direction) (byte : Fin 16)
    (apart : b.csr + 4 < b.descriptor) :
    b.register? direction (b.descriptor + byte.val) = some (.descriptor direction byte) := by
  have notStatus : b.descriptor + byte.val ≠ b.status := by
    unfold status Csr.statusOffset
    omega
  have notControl : b.descriptor + byte.val ≠ b.control := by
    unfold control Csr.controlOffset
    omega
  have inside : b.descriptor ≤ b.descriptor + byte.val ∧ b.descriptor + byte.val < b.descriptor + 16 := by omega
  rw [register?, if_neg notStatus, if_neg notControl, dif_pos inside]
  simp

theorem EngineBlock.register?_none {b : EngineBlock} (direction : Direction) {offset : Nat}
    (csr : offset ≠ b.csr ∧ offset ≠ b.csr + 4)
    (descriptor : offset < b.descriptor ∨ b.descriptor + 16 ≤ offset) : b.register? direction offset = none := by
  have outside : ¬ (b.descriptor ≤ offset ∧ offset < b.descriptor + 16) := by omega
  have notStatus : offset ≠ b.status := csr.1
  have notControl : offset ≠ b.control := csr.2
  rw [register?, if_neg notStatus, if_neg notControl, dif_neg outside]

/-- A descriptor's byte is found in the descriptor of the engine it is said to be of. -/
theorem EngineBlock.descriptor_of_register? {b : EngineBlock} {direction other : Direction} {offset : Nat}
    {byte : Fin 16} (found : b.register? direction offset = some (.descriptor other byte)) :
    other = direction ∧ offset = b.descriptor + byte.val := by
  unfold register? at found
  split at found
  · cases found
  · split at found
    · cases found
    · split at found
      · rename_i inside
        obtain ⟨rfl, rfl⟩ := Register.descriptor.inj (Option.some.inj found)
        refine ⟨rfl, ?_⟩
        dsimp only
        omega
      · cases found

namespace Profile

variable {p : Profile} {offset : Nat}

/-- An offset names something of an engine or else of the control block. -/
theorem register_cases (p : Profile) (offset : Nat) :
    (∃ pair direction, p.dispatchers = some pair ∧
      (pair.block direction).register? direction offset = some (p.register offset)) ∨
    p.register offset = p.blockRegister offset := by
  unfold register
  cases streams : p.dispatchers with
  | none => exact .inr rfl
  | some pair =>
    dsimp only
    cases read : pair.read.register? .read offset with
    | some register => exact .inl ⟨pair, .read, rfl, read⟩
    | none =>
      cases write : pair.write.register? .write offset with
      | some register => exact .inl ⟨pair, .write, rfl, write⟩
      | none => exact .inr rfl

/-- A byte of a descriptor lies in an engine of the board. -/
theorem offset_of_descriptor {direction : Direction} {byte : Fin 16}
    (found : p.register offset = .descriptor direction byte) :
    ∃ pair, p.dispatchers = some pair ∧ offset = (pair.block direction).descriptor + byte.val := by
  rcases p.register_cases offset with ⟨pair, other, streams, named⟩ | block
  · rw [found] at named
    obtain ⟨rfl, place⟩ := EngineBlock.descriptor_of_register? named
    exact ⟨pair, streams, place⟩
  · rw [block] at found
    unfold blockRegister at found
    repeat' split at found
    all_goals cases found

/-- The write control is that of the engine inside the control block. -/
theorem offset_of_writeControl (found : p.register offset = .writeControl) :
    ∃ dma, p.integrated = some dma ∧ offset = p.block.offset dma.writeControl := by
  rcases p.register_cases offset with ⟨pair, direction, -, named⟩ | block
  · rw [found] at named
    unfold EngineBlock.register? at named
    repeat' split at named
    all_goals cases named
  · rw [block] at found
    unfold blockRegister at found
    repeat' split at found
    all_goals cases found
    rename_i control
    obtain ⟨dma, has, place⟩ := Option.map_eq_some_iff.mp control
    exact ⟨dma, has, place.symm⟩

end Profile

namespace Profile.Streams

variable {p : Profile} {pair : Dispatchers}

theorem register_eq (streams : p.Streams pair) (offset : Nat) :
    p.register offset = (pair.read.register? .read offset <|> pair.write.register? .write offset).getD
      (p.blockRegister offset) := by
  rw [register, streams.dispatchers]

/-- The registers of the control block are none of an engine's. -/
theorem register_block (streams : p.Streams pair) {offset : Nat} (low : offset < 0x31000) :
    p.register offset = p.blockRegister offset := by
  have read : pair.read.register? .read offset = none := by
    apply EngineBlock.register?_none <;> simp only [streams.read] <;> omega
  have write : pair.write.register? .write offset = none := by
    apply EngineBlock.register?_none <;> simp only [streams.write] <;> omega
  rw [streams.register_eq, read, write]
  rfl

theorem register_command (streams : p.Streams pair) : p.register 0x30000 = .command := by
  rw [streams.register_block (by omega), blockRegister, streams.command, if_pos rfl]

theorem register_latch (streams : p.Streams pair) : p.register 0x3001c = .latch := by
  obtain ⟨word, latch, offset⟩ := streams.latch
  rw [streams.register_block (by omega), blockRegister, streams.command, streams.status, latch]
  simp [offset]

theorem register_rows (streams : p.Streams pair) : p.register 0x30018 = .plain := by
  obtain ⟨word, latch, offset⟩ := streams.latch
  rw [streams.register_block (by omega), blockRegister, streams.command, streams.status, latch]
  simp [offset, streams.integrated, streams.mac]

theorem register_status (streams : p.Streams pair) (direction : Direction) :
    p.register (pair.block direction).status = .engineStatus direction := by
  cases direction <;>
    simp [register, streams.dispatchers, EngineBlock.register?, Dispatchers.block, EngineBlock.status,
      EngineBlock.control, Csr.statusOffset, Csr.controlOffset, streams.read, streams.write]

theorem register_control (streams : p.Streams pair) (direction : Direction) :
    p.register (pair.block direction).control = .engineControl direction := by
  cases direction <;>
    simp [register, streams.dispatchers, EngineBlock.register?, Dispatchers.block, EngineBlock.status,
      EngineBlock.control, Csr.statusOffset, Csr.controlOffset, streams.read, streams.write]

theorem register_descriptor (streams : p.Streams pair) (direction : Direction) (byte : Fin 16) :
    p.register ((pair.block direction).descriptor + byte.val) = .descriptor direction byte := by
  cases direction with
  | read =>
    have found := EngineBlock.register?_descriptor (b := pair.read) .read byte (by simp [streams.read])
    rw [streams.register_eq, Dispatchers.block, found]
    rfl
  | write =>
    have found := EngineBlock.register?_descriptor (b := pair.write) .write byte (by simp [streams.write])
    have other : pair.read.register? .read (pair.write.descriptor + byte.val) = none := by
      apply EngineBlock.register?_none <;> simp only [streams.read, streams.write] <;> omega
    rw [streams.register_eq, Dispatchers.block, found, other]
    rfl

/-- Only one offset hands over what the engine that reads is to feed. -/
theorem offset_of_feed (streams : p.Streams pair) {offset : Nat}
    (feeds : p.register offset = .descriptor .read 12) : offset = 0x3104c := by
  obtain ⟨other, has, place⟩ := offset_of_descriptor feeds
  obtain rfl := streams.unique has
  rw [place, Dispatchers.block, streams.read]
  rfl

end Profile.Streams

end Systolic
