import Systolic.Device.Streaming

namespace Systolic.Device

variable {weights : Operand} {source len sink rows : Nat} {m n : Memory}

/-- The results of the `k`-th block of eight rows, as they come back. -/
def results (weights : Operand) (m : Memory) (source len k : Nat) : Vector UInt8 256 :=
  Wire.outputs (Wire.ofInputs (inputBlock m source len k) * weights)

/-- A block depends on no byte outside its feed. -/
theorem inputBlock_congr (k : Nat) (same : ∀ i, source ≤ i → i < source + len → n.byte i = m.byte i) :
    inputBlock n source len k = inputBlock m source len k := by
  apply Vector.ext
  intro c bound
  simp only [inputBlock, Vector.getElem_ofFn]
  split
  · exact same _ (by omega) (by omega)
  · rfl

/-- A block's results go to their place, as far as there are rows for them, and nowhere else. -/
theorem byte_multiplyBlock (k i : Nat) :
    (multiplyBlock weights source len sink rows m k).byte i =
      if h : sink + 256 * k ≤ i ∧ i < sink + 256 * k + 256 ∧ i < sink + 32 * rows then
        (results weights m source len k)[i - (sink + 256 * k)]
      else m.byte i := by
  have taken : ((results weights m source len k).toList.take (32 * min 8 (rows - 8 * k))).length =
      32 * min 8 (rows - 8 * k) := by
    rw [List.length_take, Vector.length_toList]
    omega
  show (m.store (sink + 256 * k) ((results weights m source len k).toList.take _)).byte i = _
  rw [Memory.byte_store]
  by_cases before : sink + 256 * k ≤ i
  · rw [if_pos before]
    by_cases inside : i < sink + 256 * k + 256 ∧ i < sink + 32 * rows
    · have short : i - (sink + 256 * k) < 32 * min 8 (rows - 8 * k) := by omega
      rw [dif_pos ⟨before, inside⟩, List.getElem?_eq_getElem (by omega)]
      simp
    · have long : 32 * min 8 (rows - 8 * k) ≤ i - (sink + 256 * k) := by omega
      rw [dif_neg (fun both => inside both.2), List.getElem?_eq_none (by omega)]
      rfl
  · rw [if_neg before, dif_neg (fun both => before both.1)]

/-- Results go to their place and nowhere else, also where they fall on inputs that are still to be read. -/
theorem byte_multiply_outside (weights : Operand) (source len : Nat) (m : Memory) {i : Nat}
    (outside : i < sink ∨ sink + 32 * rows ≤ i) : (multiply weights source len sink rows m).byte i = m.byte i := by
  have fold : ∀ (blocks : List Nat) (m : Memory),
      (blocks.foldl (multiplyBlock weights source len sink rows) m).byte i = m.byte i := by
    intro blocks
    induction blocks with
    | nil => exact fun _ => rfl
    | cons k blocks ih =>
      intro m
      rw [List.foldl_cons, ih, byte_multiplyBlock, dif_neg (by omega)]
  exact fold _ m

/-- What memory is like after so many blocks of a multiplication. -/
structure Multiplied (weights : Operand) (source len sink rows : Nat) (m : Memory) (blocks : Nat) (n : Memory) :
    Prop where
  outside : ∀ i, i < sink ∨ sink + 32 * rows ≤ i → n.byte i = m.byte i
  inside : ∀ k (c : Fin 256), k < blocks → 256 * k + c.val < 32 * rows →
    n.byte (sink + 256 * k + c.val) = (results weights m source len k)[c]

/-- As results never fall on the feed, each block sees the feed as it was in the beginning. -/
theorem Multiplied.step {k : Nat} (apart : source + len ≤ sink ∨ sink + 32 * rows ≤ source)
    (done : Multiplied weights source len sink rows m k n) :
    Multiplied weights source len sink rows m (k + 1) (multiplyBlock weights source len sink rows n k) := by
  have feed : results weights n source len k = results weights m source len k := by
    unfold results
    rw [inputBlock_congr k fun i low high => done.outside i (by omega)]
  constructor
  · intro i outside
    rw [byte_multiplyBlock, dif_neg (by omega)]
    exact done.outside i outside
  · intro j c finished within
    have bound := c.isLt
    rw [byte_multiplyBlock]
    by_cases last : j = k
    · subst last
      rw [dif_pos (by omega), feed]
      congr 1
      omega
    · rw [dif_neg (by omega)]
      exact done.inside j c (by omega) within

theorem multiplied (apart : source + len ≤ sink ∨ sink + 32 * rows ≤ source) :
    Multiplied weights source len sink rows m ((rows + 7) / 8) (multiply weights source len sink rows m) := by
  unfold multiply
  induction (rows + 7) / 8 with
  | zero => exact ⟨fun _ _ => rfl, fun _ _ finished => absurd finished (Nat.not_lt_zero _)⟩
  | succ k ih =>
    rw [List.range_succ, List.foldl_append]
    exact ih.step apart

/-- A block that lies in the feed as a whole is what memory holds there. -/
theorem inputBlock_whole {k : Nat} (whole : 64 * k + 64 ≤ len) :
    inputBlock m source len k = m.block (source + 64 * k) 64 := by
  apply Vector.ext
  intro c bound
  simp only [inputBlock, Memory.block, Vector.getElem_ofFn]
  rw [if_pos (by omega)]

theorem rowsPassing_whole {limit : Option Nat} {count : Nat} (counts : ∀ r, limit = some r → r = 8 * count) :
    rowsPassing limit (count * 64) (count * 256) = 8 * count := by
  unfold rowsPassing
  dsimp only
  cases limit with
  | none =>
    dsimp only
    omega
  | some r =>
    have same := counts r rfl
    dsimp only
    omega

/-- Whether all of a range of bus addresses lies in shared memory. -/
def Reaches (d : Device) (bus : UInt32) (len : Nat) : Prop :=
  d.profile.busBase.toNat ≤ bus.toNat ∧ bus.toNat - d.profile.busBase.toNat + len ≤ d.memory.size

instance (d : Device) (bus : UInt32) (len : Nat) : Decidable (d.Reaches bus len) := inferInstanceAs (Decidable (_ ∧ _))

theorem offset?_of_reaches {d : Device} {bus : UInt32} {len : Nat} (reaches : d.Reaches bus len) :
    d.offset? bus len = some (bus.toNat - d.profile.busBase.toNat) :=
  if_pos ⟨UInt32.le_iff_toNat_le.mpr reaches.1, reaches.2⟩

theorem offset?_of_not_reaches {d : Device} {bus : UInt32} {len : Nat} (outside : ¬ d.Reaches bus len) :
    d.offset? bus len = none :=
  if_neg fun inside => outside ⟨UInt32.le_iff_toNat_le.mp inside.1, inside.2⟩

/-- Whole matrices stream through to the last row, if the row count lets them. -/
theorem stream_whole {d : Device} {inputs outputs : UInt32} {count i o : Nat} (positive : 0 < count)
    (counts : ∀ r, d.rowLimit = some r → r = 8 * count) (source : d.offset? inputs (count * 64) = some i)
    (sink : d.offset? outputs (count * 256) = some o) :
    d.stream inputs (count * 64) outputs (count * 256) =
      { d with
        memory := multiply d.active i (count * 64) o (8 * count) d.memory
        rowsStreamed := d.rowsStreamed + 8 * count } := by
  have passing : rowsPassing d.rowLimit (count * 64) (count * 256) = 8 * count := rowsPassing_whole counts
  have bytes : 32 * (8 * count) = count * 256 := by omega
  unfold stream
  dsimp only
  rw [passing, if_neg (by omega), bytes, source, sink]

end Systolic.Device
