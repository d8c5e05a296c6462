import Systolic.Proofs.RoundTrip

namespace Systolic

section Blocks

variable {α β : Type} {n : Nat}

/-- Blocks in a row are cut apart where they were put together, whatever comes after them. -/
theorem blocks_flatMap (positive : 0 < n) (f : β → Vector α n) (bs : List β) (rest : List α) :
    blocks n ((bs.flatMap fun b => (f b).toList) ++ rest) = bs.map f ++ blocks n rest := by
  induction bs with
  | nil => rfl
  | cons b bs ih =>
    rw [List.flatMap_cons, List.append_assoc, blocks_append positive, ih]
    rfl

/-- Of blocks in a row each one stands where those before it end, and none stands after the last. -/
theorem take_drop_flatMap (f : β → Vector α n) (bs : List β) (i : Nat) :
    ((bs.flatMap fun b => (f b).toList).drop (n * i)).take n = bs[i]?.elim [] fun b => (f b).toList := by
  induction bs generalizing i with
  | nil => simp
  | cons b bs ih =>
    have length : (f b).toList.length = n := Vector.length_toList
    rw [List.flatMap_cons]
    cases i with
    | zero =>
      rw [Nat.mul_zero, List.drop_zero, List.take_left' length]
      rfl
    | succ i =>
      have past : n * (i + 1) = (f b).toList.length + n * i := by rw [length, Nat.mul_succ, Nat.add_comm]
      rw [past, List.drop_length_add_append, ih, List.getElem?_cons_succ]

/-- A run is the blocks that it is cut into and less than one block more. -/
theorem blocks_rest (positive : 0 < n) (run : List α) :
    ∃ rest, rest.length < n ∧ run = (blocks n run).flatMap Vector.toList ++ rest := by
  fun_induction blocks n run with
  | case1 run whole ih =>
    obtain ⟨rest, short, cut⟩ := ih
    refine ⟨rest, short, ?_⟩
    rw [List.flatMap_cons, List.append_assoc, ← cut, Vector.toList_mk, List.take_append_drop]
  | case2 run short =>
    refine ⟨run, ?_, rfl⟩
    rw [List.length_take] at short
    omega

theorem length_blocks (positive : 0 < n) (run : List α) : (blocks n run).length = run.length / n := by
  obtain ⟨rest, short, cut⟩ := blocks_rest positive run
  have whole : ((blocks n run).flatMap Vector.toList).length = n * (blocks n run).length :=
    length_flatMap_toList id (blocks n run)
  have length := congrArg List.length cut
  rw [List.length_append, whole] at length
  rw [length, Nat.mul_add_div positive, Nat.div_eq_of_lt short, Nat.add_zero]

theorem flatMap_blocks (positive : 0 < n) (run : List α) :
    (blocks n run).flatMap Vector.toList = run.take (n * (run.length / n)) := by
  obtain ⟨rest, -, cut⟩ := blocks_rest positive run
  have length : ((blocks n run).flatMap Vector.toList).length = n * (run.length / n) := by
    rw [← length_blocks positive]
    exact length_flatMap_toList id (blocks n run)
  calc (blocks n run).flatMap Vector.toList
      _ = ((blocks n run).flatMap Vector.toList ++ rest).take (n * (run.length / n)) := (List.take_left' length).symm
      _ = run.take (n * (run.length / n)) := by rw [← cut]

end Blocks

namespace Wire

variable {α : Type} {n : Nat}

/-- Results in a row, as the array sends them. -/
def outputBatch (os : List Output) : List UInt8 := os.flatMap fun o => (outputs o).toList

/-- A batch put together by way of a single buffer. Each matrix is put over what the one before it has left there. -/
def batchOver (onto : Vector UInt8 n → α → Vector UInt8 n) (buffer : Vector UInt8 n) : List α → List UInt8
  | [] => []
  | m :: ms => (onto buffer m).toList ++ batchOver onto (onto buffer m) ms

/-- If a matrix covers the whole buffer, nothing of what was there before goes into the batch. -/
theorem batchOver_eq {onto : Vector UInt8 n → α → Vector UInt8 n} {encode : α → Vector UInt8 n}
    (covers : ∀ buffer m, onto buffer m = encode m) (buffer : Vector UInt8 n) (ms : List α) :
    batchOver onto buffer ms = ms.flatMap fun m => (encode m).toList := by
  induction ms generalizing buffer with
  | nil => rfl
  | cons m ms ih => rw [batchOver, ih, covers, List.flatMap_cons]

/-- A batch of matrices that take `n` bytes each: its length, its blocks, and that batches may be put together from
parts. -/
structure Framed (encode : α → Vector UInt8 n) (batch : List α → List UInt8) : Prop where
  length : ∀ ms, (batch ms).length = n * ms.length
  block : ∀ ms i, ((batch ms).drop (n * i)).take n = ms[i]?.elim [] fun m => (encode m).toList
  append : ∀ ms more, batch (ms ++ more) = batch ms ++ batch more

theorem framed_flatMap (encode : α → Vector UInt8 n) : Framed encode fun ms => ms.flatMap fun m => (encode m).toList where
  length := length_flatMap_toList encode
  block := take_drop_flatMap encode
  append _ _ := List.flatMap_append

/-- Results are read back from the front of a run, and no more of them than it begins with. -/
theorem ofOutputBatch_append (os : List Output) (rest : List UInt8) :
    ofOutputBatch (outputBatch os ++ rest) = os ++ ofOutputBatch rest := by
  rw [ofOutputBatch, outputBatch, blocks_flatMap (by decide), List.map_append, List.map_map]
  congr 1
  exact List.map_id'' ofOutputs_outputs os

theorem length_ofOutputBatch (run : List UInt8) : (ofOutputBatch run).length = run.length / 256 := by
  rw [ofOutputBatch, List.length_map, length_blocks (by decide)]

theorem outputBatch_ofOutputBatch (run : List UInt8) :
    outputBatch (ofOutputBatch run) = run.take (256 * (run.length / 256)) := by
  rw [outputBatch, ofOutputBatch, List.flatMap_map, ← flatMap_blocks (by decide)]
  simp only [outputs_ofOutputs]

/-- Operands that are put one by one into one buffer make the same batch whatever it held at first: 64 bytes to each of
them, in order. A run of results is read as long as there are 256 bytes more of it, whatever its length: written
again they are its bytes up to there, and results that were written are read back just when what comes after them
is shorter than one more. -/
theorem batches_framed :
    (Framed inputs inputBatch ∧ ∀ buffer, batchOver inputsOver buffer = inputBatch) ∧
    (Framed weights weightBatch ∧ ∀ buffer, batchOver weightsOver buffer = weightBatch) ∧
    (∀ run, (ofOutputBatch run).length = run.length / 256 ∧
      ∀ buffer, batchOver outputsOver buffer (ofOutputBatch run) = run.take (256 * (run.length / 256))) ∧
    ∀ buffer os tail, ofOutputBatch (batchOver outputsOver buffer os ++ tail) = os ↔ tail.length < 256 := by
  have results : ∀ buffer, batchOver outputsOver buffer = outputBatch :=
    fun buffer => funext (batchOver_eq outputsOver_eq buffer)
  refine ⟨⟨framed_flatMap inputs, ?_⟩, ⟨framed_flatMap weights, ?_⟩, ?_, ?_⟩
  · intro buffer
    exact funext (batchOver_eq inputsOver_eq buffer)
  · intro buffer
    exact funext (batchOver_eq weightsOver_eq buffer)
  · intro run
    refine ⟨length_ofOutputBatch run, ?_⟩
    intro buffer
    rw [results, outputBatch_ofOutputBatch]
  · intro buffer os tail
    have nothing : ofOutputBatch tail = [] ↔ tail.length < 256 := by
      rw [← List.length_eq_zero_iff, length_ofOutputBatch]
      omega
    rw [results, ofOutputBatch_append, List.append_right_eq_self, nothing]

end Wire

end Systolic
