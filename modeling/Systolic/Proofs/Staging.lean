import Systolic.Proofs.Achieves
import Systolic.Proofs.Placement
import Systolic.Region.Staging

namespace Systolic

open Program

variable {σ : Type} {size : Nat} {r : Region}

namespace Staging

section Ranges

variable {offset len : Nat} {bytes : List UInt8}

theorem run_writeBytes (inside : offset + bytes.length ≤ size) :
    (writeBytes size offset bytes).run = store offset bytes (done (.ok ())) := by
  have range : Region.checkRange offset bytes.length size = .ok () := Region.checkRange_ok.mpr inside
  unfold writeBytes
  rw [range]
  rfl

theorem run_writeBytes_outside (outside : ¬ offset + bytes.length ≤ size) :
    (writeBytes size offset bytes).run = done (.error (.outOfBounds offset bytes.length size)) := by
  have range : Region.checkRange offset bytes.length size = .error (.outOfBounds offset bytes.length size) :=
    if_neg outside
  unfold writeBytes
  rw [range]
  rfl

theorem run_zero (inside : offset + len ≤ size) :
    (zero size offset len).run = Program.clear offset len (done (.ok ())) := by
  have range : Region.checkRange offset len size = .ok () := Region.checkRange_ok.mpr inside
  unfold zero buffer
  rw [if_neg (by omega), range]
  rfl

/-- A host that can have a buffer for the range comes to find that it is out of bounds. -/
theorem run_zero_outside (outside : ¬ offset + len ≤ size) (short : len < Memory.bound) :
    (zero size offset len).run = done (.error (.outOfBounds offset len size)) := by
  have range : Region.checkRange offset len size = .error (.outOfBounds offset len size) := if_neg outside
  unfold zero buffer
  rw [if_neg (by omega), range]
  rfl

theorem run_readBytes (inside : offset + len ≤ size) :
    (readBytes size offset len).run = load offset len fun bytes => done (.ok bytes) := by
  have range : Region.checkRange offset len size = .ok () := Region.checkRange_ok.mpr inside
  unfold readBytes buffer
  rw [if_neg (by omega), range]
  rfl

end Ranges

theorem run_place {bytes : List UInt8} (room : bytes.length ≤ r.len) (inside : r.offset + bytes.length ≤ size) :
    (place size r bytes).run = store r.offset bytes (done (.ok ())) := by
  unfold place
  rw [if_neg (by omega)]
  exact run_writeBytes inside

theorem run_clear (inside : r.offset + r.len ≤ size) :
    (clear size r).run = Program.clear r.offset r.len (done (.ok ())) := run_zero inside

theorem run_readOutputs {count : Nat} (room : 256 * count ≤ r.len) (inside : r.offset + 256 * count ≤ size) :
    (readOutputs size r count).run =
      load r.offset (256 * count) fun bytes => done (.ok (Wire.ofOutputBatch bytes)) := by
  unfold readOutputs
  rw [if_neg (by omega)]
  show (readBytes size r.offset (256 * count)).run.bind _ = _
  rw [run_readBytes inside]
  rfl

/-- Bytes that a region has no room for, or that would leave the window, are not put anywhere. The room is what is
asked for first. -/
theorem run_place_refused {bytes : List UInt8}
    (misfit : ¬ (bytes.length ≤ r.len ∧ r.offset + bytes.length ≤ size)) :
    (place size r bytes).run = done (.error (if r.len < bytes.length
      then .invalidArgument (.regionRoom r.name r.len bytes.length) else .outOfBounds r.offset bytes.length size)) := by
  unfold place
  by_cases long : r.len < bytes.length
  · rw [if_pos long, if_pos long]
    rfl
  · rw [if_neg long, if_neg long]
    exact run_writeBytes_outside (by omega)

/-- Results that a region does not hold, or that leave the window, are not read. -/
theorem run_readOutputs_refused {count : Nat}
    (misfit : ¬ (256 * count ≤ r.len ∧ r.offset + 256 * count ≤ size)) :
    (readOutputs size r count).run = halt ∨ ∃ e, (readOutputs size r count).run = done (.error e) := by
  unfold readOutputs readBytes buffer
  by_cases many : r.len < 256 * count
  · rw [if_pos many]
    exact .inr ⟨_, rfl⟩
  · have outside : ¬ r.offset + 256 * count ≤ size := by omega
    have range : Region.checkRange r.offset (256 * count) size = .error (.outOfBounds r.offset (256 * count) size) :=
      if_neg outside
    rw [if_neg many, range]
    by_cases long : size < r.offset + 256 * count ∧ Memory.bound ≤ 256 * count
    · rw [if_pos long]
      exact .inl rfl
    · rw [if_neg long]
      exact .inr ⟨_, rfl⟩

end Staging

namespace Sequencer

variable (b : Board σ) (s : Sequencer) (t : σ)

/-- Bytes placed in a region with room for them are in shared memory after it. -/
theorem achieves_place {bytes : List UInt8} (room : bytes.length ≤ r.len) (inside : r.offset + bytes.length ≤ size) :
    s.Achieves b t (liftM (Staging.place size r bytes)) fun _ s' t' => s' = s ∧
      t' = b.withMemory t ((b.memory t).store r.offset bytes) := by
  have placed : ∀ j, (Staging.place size r bytes).run.runOn b t j =
      ⟨some (.ok ()), b.withMemory t ((b.memory t).store r.offset bytes), j⟩ := by
    intro j
    rw [Staging.run_place room inside]
    rfl
  exact (achieves_attempt s placed).mono fun _ _ _ after => after.2

section Fits

variable {busBase : UInt32} {offset : Nat} {ms : List Operand} (fits : r.Fits size busBase offset ms.length 64)
include fits

/-- A batch has room in the region that was made for it. -/
theorem achieves_writeWeights : s.Achieves b t (liftM (Staging.writeWeights size r ms)) fun _ s' t' => s' = s ∧
    t' = b.withMemory t ((b.memory t).store r.offset (Wire.weightBatch ms)) := by
  obtain ⟨room, inside⟩ := fits.room
  rw [← Wire.length_weightBatch] at room inside
  exact achieves_place b s t room inside

theorem achieves_writeInputs : s.Achieves b t (liftM (Staging.writeInputs size r ms)) fun _ s' t' => s' = s ∧
    t' = b.withMemory t ((b.memory t).store r.offset (Wire.inputBatch ms)) := by
  obtain ⟨room, inside⟩ := fits.room
  rw [← Wire.length_inputBatch] at room inside
  exact achieves_place b s t room inside

end Fits

theorem achieves_clear (inside : r.offset + r.len ≤ size) :
    s.Achieves b t (liftM (Staging.clear size r)) fun _ s' t' => s' = s ∧
      t' = b.withMemory t ((b.memory t).clear r.offset r.len) := by
  have cleared : ∀ j, (Staging.clear size r).run.runOn b t j =
      ⟨some (.ok ()), b.withMemory t ((b.memory t).clear r.offset r.len), j⟩ := by
    intro j
    rw [Staging.run_clear inside]
    rfl
  exact (achieves_attempt s cleared).mono fun _ _ _ after => after.2

theorem achieves_readOutputs {count : Nat} (room : 256 * count ≤ r.len) (inside : r.offset + 256 * count ≤ size) :
    s.Achieves b t (liftM (Staging.readOutputs size r count)) fun results s' t' =>
      results = Wire.ofOutputBatch ((b.memory t).load r.offset (256 * count)) ∧ s' = s ∧ t' = t := by
  have read : ∀ j, (Staging.readOutputs size r count).run.runOn b t j =
      ⟨some (.ok (Wire.ofOutputBatch ((b.memory t).load r.offset (256 * count)))), t, j⟩ := by
    intro j
    rw [Staging.run_readOutputs room inside]
    rfl
  exact achieves_attempt s read

end Sequencer

end Systolic
