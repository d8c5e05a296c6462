import Systolic.Memory
import Systolic.Wire

namespace Systolic

variable {α : Type}

/-- The `c`-th element of the `k`-th of vectors in a row. -/
theorem flatten_at {m n : Nat} (xss : Vector (Vector α m) n) {k c : Nat} (row : k < n) (col : c < m)
    (inside : m * k + c < n * m) : xss.flatten[m * k + c] = xss[k][c] := by
  have quotient : (m * k + c) / m = k := by
    rw [Nat.mul_add_div (by omega), Nat.div_eq_of_lt col, Nat.add_zero]
  have remainder : (m * k + c) % m = c := by rw [Nat.mul_add_mod, Nat.mod_eq_of_lt col]
  simp only [Vector.getElem_flatten, quotient, remainder]

namespace Wire

/-- Inputs in reading order. -/
theorem getElem_inputs (m : Operand) (r c : Fin 8) (inside : 8 * r.val + c.val < 64) :
    (inputs m)[8 * r.val + c.val] = (m.get r c).toUInt8 := by
  have place := flatten_at (m.rows.map fun row => row.map Int8.toUInt8) r.isLt c.isLt inside
  refine place.trans ?_
  rw [Vector.getElem_map, Vector.getElem_map]
  rfl

theorem unpack_getWord {n : Nat} (b : Vector UInt8 n) {offset : Nat} (inside : offset + 4 ≤ n) (k : Fin 4)
    (bound : offset + k.val < n) : (Word.unpack (getWord b offset inside)).get k = b[offset + k.val].toInt8 := by
  rw [Word.unpack, getWord, Word.bytes_ofBytes, Vector.map_ofFn]
  exact Vector.getElem_ofFn k.isLt

/-- A loop makes true what one of its rounds makes true and no round makes false. -/
theorem foldl_makes {σ ι : Type} {P : σ → Prop} {step : σ → ι → σ} (keeps : ∀ s k, P s → P (step s k)) {k : ι}
    (makes : ∀ s, P (step s k)) {keys : List ι} (member : k ∈ keys) (s : σ) : P (keys.foldl step s) := by
  obtain ⟨before, after, rfl⟩ := List.append_of_mem member
  rw [List.foldl_append, List.foldl_cons]
  exact List.foldlRecOn after step (makes _) fun s holds k _ => keeps s k holds

/-- The element at a place is that of `m`. -/
def Right (m : Operand) (place : Fin 8 × Fin 8) (n : Operand) : Prop :=
  n.get place.1 place.2 = m.get place.1 place.2

theorem right_setAt (m n : Operand) (place : Fin 8 × Fin 8) :
    Right m place (setAt n place (m.get place.1 place.2)) := by
  rw [Right, setAt, Matrix.get_set, if_pos ⟨rfl, rfl⟩]

/-- What is right stays so when something else is set right. -/
theorem Right.setAt {m n : Operand} {place : Fin 8 × Fin 8} (right : Right m place n) (other : Fin 8 × Fin 8) :
    Right m place (setAt n other (m.get other.1 other.2)) := by
  rw [Right, Wire.setAt, Matrix.get_set]
  split
  · rename_i here
    rw [here.1, here.2]
  · exact right

section Slots

-- A slot that holds elements of `m` for their places.
variable {place : Fin 8 → Fin 8 × Fin 8} {low high : Vector Int8 4} {m : Operand}
  (lows : ∀ k : Fin 4, low.get k = m.get (place (k.castAdd 4)).1 (place (k.castAdd 4)).2)
  (highs : ∀ k : Fin 4, high.get k = m.get (place (k.natAdd 4)).1 (place (k.natAdd 4)).2)
include lows highs

/-- One round of a slot leaves right what is right already. -/
theorem Right.setBoth {n : Operand} {spot : Fin 8 × Fin 8} (right : Right m spot n) (k : Fin 4) :
    Right m spot (Wire.setAt (Wire.setAt n (place (k.castAdd 4)) (low.get k)) (place (k.natAdd 4)) (high.get k)) := by
  rw [lows, highs]
  exact (right.setAt _).setAt _

theorem Right.setSlot {n : Operand} {spot : Fin 8 × Fin 8} (right : Right m spot n) :
    Right m spot (setSlot place low high n) :=
  List.foldlRecOn _ _ right fun _ right k _ => right.setBoth lows highs k

theorem right_setSlot (n : Operand) (i : Fin 8) : Right m (place i) (setSlot place low high n) := by
  have keeps (n : Operand) (k : Fin 4) (right : Right m (place i) n) := right.setBoth lows highs k
  -- The round of `k` sets both element `k` and element `4 + k`, so that it is the round of `i` in either case.
  suffices makes : ∃ k : Fin 4, ∀ n, Right m (place i)
      (setAt (setAt n (place (k.castAdd 4)) (low.get k)) (place (k.natAdd 4)) (high.get k)) by
    obtain ⟨k, makes⟩ := makes
    exact foldl_makes keeps makes (List.mem_finRange k) n
  induction i using Fin.addCases (m := 4) (n := 4) with
  | left k =>
    refine ⟨k, fun n => ?_⟩
    rw [lows, highs]
    exact (right_setAt m n _).setAt _
  | right k =>
    refine ⟨k, fun n => ?_⟩
    rw [highs]
    exact right_setAt m _ _

end Slots

/-- Slots with the elements of `m` for their places make `m`, if there is a place for each of them. -/
theorem ofSlots_eq {place : Fin 8 → Fin 8 → Fin 8 × Fin 8} {b : Vector UInt8 64} {m : Operand}
    (reads : ∀ t i : Fin 8, b[8 * t.val + i.val].toInt8 = m.get (place t i).1 (place t i).2)
    (covers : ∀ r c, ∃ t i, place t i = (r, c)) : ofSlots place b = m := by
  have lows : ∀ (t : Fin 8) (k : Fin 4), (Word.unpack (getWord b (8 * t.val) (by omega))).get k =
      m.get (place t (k.castAdd 4)).1 (place t (k.castAdd 4)).2 := by
    intro t k
    rw [unpack_getWord _ _ _ (by omega), ← reads]
    rfl
  have highs : ∀ (t : Fin 8) (k : Fin 4), (Word.unpack (getWord b (8 * t.val + 4) (by omega))).get k =
      m.get (place t (k.natAdd 4)).1 (place t (k.natAdd 4)).2 := by
    intro t k
    rw [unpack_getWord _ _ _ (by omega), ← reads]
    simp only [Fin.val_natAdd, Nat.add_assoc]
  ext r c
  obtain ⟨t, i, here⟩ := covers r c
  have keeps (n : Operand) (t : Fin 8) (right : Right m (r, c) n) := right.setSlot (lows t) (highs t)
  have makes (n : Operand) := right_setSlot (lows t) (highs t) n i
  rw [here] at makes
  rw [ofSlots]
  exact foldl_makes keeps makes (List.mem_finRange t) _

theorem ofInputs_eq (b : Vector UInt8 64) : ofInputs b = .ofFn fun r c => b[8 * r.val + c.val].toInt8 :=
  ofSlots_eq (fun t i => (Matrix.get_ofFn (fun r c => b[8 * r.val + c.val].toInt8) t i).symm) fun r c => ⟨r, c, rfl⟩

/-- Weights are read as inputs are, but for where their elements go. -/
theorem ofWeights_eq (b : Vector UInt8 64) : ofWeights b = (ofInputs b).transpose.flip := by
  refine ofSlots_eq ?_ fun r c => ⟨c.rev, r, by rw [Fin.rev_rev]⟩
  intro t i
  rw [Matrix.get_flip, Matrix.get_transpose, ofInputs_eq, Matrix.get_ofFn, Fin.rev_rev]

theorem get_ofOutputs (b : Vector UInt8 256) (r c : Fin 8) : (ofOutputs b).get r c =
    (Word.ofBytesBig (.ofFn fun j => b[4 * (8 * r.val + (Matrix.lane c).val) + j.val])).toInt32 := by
  rw [ofOutputs, Matrix.get_ofFn]
  dsimp only
  rw [getWord, Word.swapBytes, Word.bytesBig, Word.bytes_ofBytes, Word.ofBytesBig]

theorem ofInputs_inputs (m : Operand) : ofInputs (inputs m) = m := by
  ext r c
  rw [ofInputs_eq, Matrix.get_ofFn, getElem_inputs]
  rfl

theorem ofWeights_weights (m : Operand) : ofWeights (weights m) = m := by
  rw [ofWeights_eq, weights, ofInputs_inputs, Matrix.transpose_transpose, Matrix.flip_flip]

/-- Results in reading order too, but for the lanes: four bytes to each, the most significant first. -/
theorem getElem_outputs (m : Output) (r c : Fin 8) (j : Fin 4) (inside : 4 * (8 * r.val + c.val) + j.val < 256) :
    (outputs m)[4 * (8 * r.val + c.val) + j.val] = (Word.bytesBig (m.get r (Matrix.lane c)).toUInt32)[j] := by
  have same : 4 * (8 * r.val + c.val) + j.val = (8 * 4) * r.val + (4 * c.val + j.val) := by omega
  have outer := flatten_at (m.swapLanes.rows.map fun row => (row.map fun e => Word.bytesBig e.toUInt32).flatten)
    r.isLt (c := 4 * c.val + j.val) (by omega) (by omega)
  have inner := flatten_at (m.swapLanes.rows[r.val].map fun e => Word.bytesBig e.toUInt32) c.isLt j.isLt (by omega)
  rw [Vector.getElem_map] at outer inner
  have element : m.swapLanes.rows[r.val][c.val] = m.get r (Matrix.lane c) := m.get_swapLanes r c
  rw [element] at inner
  simp only [same]
  exact outer.trans inner

theorem ofOutputs_outputs (m : Output) : ofOutputs (outputs m) = m := by
  have word : ∀ r c : Fin 8, (Vector.ofFn fun j : Fin 4 => (outputs m)[4 * (8 * r.val + c.val) + j.val]) =
      Word.bytesBig (m.get r (Matrix.lane c)).toUInt32 := by
    intro r c
    apply Vector.ext
    intro j bound
    rw [Vector.getElem_ofFn]
    exact getElem_outputs m r c ⟨j, bound⟩ _
  ext r c
  rw [get_ofOutputs, word, Word.ofBytesBig_bytesBig, Matrix.lane_lane]
  rfl

end Wire

/-- A block at the front of a run is the first one that the run is cut into. -/
theorem blocks_append {n : Nat} (positive : 0 < n) (block : Vector α n) (rest : List α) :
    blocks n (block.toList ++ rest) = block :: blocks n rest := by
  have front : (block.toList ++ rest).take n = block.toList := by
    rw [List.take_append_of_le_length (by simp), List.take_of_length_le (by simp)]
  have back : (block.toList ++ rest).drop n = rest := by
    rw [List.drop_append_of_le_length (by simp), List.drop_of_length_le (by simp), List.nil_append]
  have whole : ((block.toList ++ rest).take n).length = n ∧ 0 < n := ⟨by simp [front], positive⟩
  rw [blocks, dif_pos whole, back]
  congr 1
  apply Vector.ext
  intro i bound
  simp [front]

theorem Memory.load_add (m : Memory) (offset len more : Nat) :
    m.load offset (len + more) = m.load offset len ++ m.load (offset + len) more := by
  simp only [load, List.range_add, List.map_append, List.map_map, Function.comp_def, Nat.add_assoc]

theorem Memory.toList_block (m : Memory) (offset n : Nat) : (m.block offset n).toList = m.load offset n := by
  apply List.ext_getElem <;> simp [block, load]

theorem blocks_short {n : Nat} {run : List α} (short : run.length < n) : blocks n run = [] := by
  rw [blocks, dif_neg]
  rw [List.length_take]
  omega

/-- A run of memory is cut into the blocks that stand there one after the other. What is too short for one
more is dropped. -/
theorem Memory.blocks_load_rest (m : Memory) (offset : Nat) {n rest : Nat} (short : rest < n) (count : Nat) :
    blocks n (m.load offset (n * count + rest)) = (List.range count).map fun i => m.block (offset + n * i) n := by
  induction count generalizing offset with
  | zero => exact blocks_short (by rw [length_load]; omega)
  | succ count ih =>
    have split : n * (count + 1) + rest = n + (n * count + rest) := by rw [Nat.mul_succ]; omega
    rw [split, load_add, ← toList_block, blocks_append (by omega), ih, List.range_succ_eq_map, List.map_cons,
      List.map_map]
    congr 1
    apply List.map_congr_left
    intro i _
    simp only [Function.comp_apply, Nat.mul_succ]
    congr 1
    omega

theorem Memory.blocks_load (m : Memory) (offset : Nat) {n : Nat} (positive : 0 < n) (count : Nat) :
    blocks n (m.load offset (n * count)) = (List.range count).map fun i => m.block (offset + n * i) n :=
  m.blocks_load_rest offset positive count

/-- Blocks in a row are as long as all of them together. -/
theorem length_flatMap_toList {β : Type} {n : Nat} (f : β → Vector α n) (bs : List β) :
    (bs.flatMap fun b => (f b).toList).length = n * bs.length := by
  induction bs with
  | nil => rfl
  | cons b bs ih =>
    rw [List.flatMap_cons, List.length_append, ih, Vector.length_toList, List.length_cons, Nat.mul_succ, Nat.add_comm]

/-- The bytes of blocks in a row: the `c`-th byte of the `k`-th block. -/
theorem getElem?_flatMap {β : Type} {n : Nat} (f : β → Vector α n) (bs : List β) {k : Nat} (bound : k < bs.length)
    (c : Fin n) : (bs.flatMap fun b => (f b).toList)[n * k + c.val]? = some (f bs[k])[c] := by
  induction bs generalizing k with
  | nil => nomatch bound
  | cons b bs ih =>
    rw [List.flatMap_cons]
    cases k with
    | zero =>
      rw [Nat.mul_zero, Nat.zero_add, List.getElem?_append_left (by simp)]
      simp
    | succ k =>
      have past : n * (k + 1) + c.val = n + (n * k + c.val) := by rw [Nat.mul_succ]; omega
      rw [past, List.getElem?_append_right (by simp)]
      simpa using ih (k := k) (by simpa using bound)

namespace Memory

theorem byte_store_outside (m : Memory) {offset i : Nat} {bytes : List UInt8}
    (outside : i < offset ∨ offset + bytes.length ≤ i) : (m.store offset bytes).byte i = m.byte i := by
  rw [byte_store]
  split
  · rw [List.getElem?_eq_none (by omega)]
    rfl
  · rfl

theorem block_congr {m n : Memory} {offset len : Nat}
    (same : ∀ i, offset ≤ i → i < offset + len → n.byte i = m.byte i) :
    n.block offset len = m.block offset len := by
  apply Vector.ext
  intro i bound
  simp only [block, Vector.getElem_ofFn]
  exact same _ (by omega) (by omega)

/-- Of blocks stored in a row each one is found at its place. -/
theorem block_store {β : Type} {len : Nat} (m : Memory) (offset : Nat) (f : β → Vector UInt8 len)
    (bs : List β) {k : Nat} (bound : k < bs.length) :
    (m.store offset (bs.flatMap fun b => (f b).toList)).block (offset + len * k) len = f bs[k] := by
  apply Vector.ext
  intro i inside
  have index : offset + len * k + i - offset = len * k + i := by omega
  simp only [block, Vector.getElem_ofFn]
  rw [byte_store, if_pos (by omega), index, getElem?_flatMap f bs bound ⟨i, inside⟩]
  rfl

end Memory

end Systolic
