import Mathlib.Algebra.Group.Int.Defs
import Systolic.Proofs.RoundTrip

namespace Systolic

namespace Word

/-- The `k`-th byte from below of the two's complement of an integer. -/
def twosByte (x : Int) (k : Nat) : UInt8 := UInt8.ofNat (x / 256 ^ k % 256).toNat

/-- The bytes of an integer in 32 bits hang on no more than its remainder by `2 ^ 32`. -/
theorem twosByte_congr {x y : Int} (same : x % 2 ^ 32 = y % 2 ^ 32) {k : Nat} (low : k < 4) :
    twosByte x k = twosByte y k := by
  have cases : k = 0 ∨ k = 1 ∨ k = 2 ∨ k = 3 := by omega
  have byte : x / 256 ^ k % 256 = y / 256 ^ k % 256 := by
    rcases cases with rfl | rfl | rfl | rfl <;> omega
  rw [twosByte, byte, twosByte]

theorem toNat_toUInt32 (x : Int32) : (x.toUInt32.toNat : Int) = x.toInt % 2 ^ 32 := by
  have value : x.toInt = _ := x.toBitVec.toInt_eq_toNat_cond
  have word : x.toUInt32.toNat = x.toBitVec.toNat := rfl
  have bound := x.toBitVec.isLt
  rw [value, word]
  split <;> omega

theorem toUInt8_eq (x : Int8) : x.toUInt8 = twosByte x.toInt 0 := by
  have value : x.toInt = _ := x.toBitVec.toInt_eq_toNat_cond
  have bound := x.toBitVec.isLt
  have byte : (x.toInt / 256 ^ 0 % 256).toNat = x.toBitVec.toNat := by
    rw [value, pow_zero, Int.ediv_one]
    split <;> omega
  rw [twosByte, byte]
  exact (UInt8.ofNat_toNat (x := x.toUInt8)).symm

theorem getElem_bytes (w : UInt32) {k : Nat} (low : k < 4) : (bytes w)[k] = twosByte w.toNat k := by
  have step : (2 : Nat) ^ (8 * k) = 256 ^ k := by rw [Nat.pow_mul]
  have byte : ((w.toNat / 256 ^ k % 256 : Nat) : Int) = w.toNat / 256 ^ k % 256 := by
    rw [Int.natCast_emod, Int.natCast_ediv, Int.natCast_pow]
    rfl
  have shifted : (bytes w)[k] = UInt8.ofNat (w.toNat >>> (8 * k)) := Vector.getElem_ofFn _
  rw [shifted, twosByte, ← byte, Int.toNat_natCast, Nat.shiftRight_eq_div_pow, step]
  apply UInt8.toNat.inj
  simp

/-- The bytes of an element, the least significant first. -/
theorem getElem_bytes_element (x : Int32) {k : Nat} (low : k < 4) : (bytes x.toUInt32)[k] = twosByte x.toInt k := by
  have same : (x.toUInt32.toNat : Int) % 2 ^ 32 = x.toInt % 2 ^ 32 := by rw [toNat_toUInt32, Int.emod_emod]
  rw [getElem_bytes, twosByte_congr same low]

/-- The bytes of an element, the most significant first. -/
theorem getElem_bytesBig (x : Int32) {j : Nat} (low : j < 4) :
    (bytesBig x.toUInt32)[j] = twosByte x.toInt (3 - j) := by
  have place : 4 - 1 - j = 3 - j := by omega
  have turned : (bytesBig x.toUInt32)[j] = _ := Vector.getElem_reverse low
  rw [turned, getElem_bytes_element x (by omega), place]

end Word

namespace Wire

/-- Weights a column at a time, from the last one to the first. -/
theorem getElem_weights (m : Operand) (r t : Fin 8) (inside : 8 * t.val + r.val < 64) :
    (weights m)[8 * t.val + r.val] = (m.get r t.rev).toUInt8 := by
  refine (getElem_inputs m.flip.transpose t r inside).trans ?_
  rw [Matrix.get_transpose, Matrix.get_flip]

/-- The bytes of the element in row `r` and column `c` of a result, which travels in the other lane of its pair. -/
theorem getElem_outputs_lane (o : Output) (r c : Fin 8) (j : Fin 4)
    (inside : 4 * (8 * r.val + (Matrix.lane c).val) + j.val < 256) :
    (outputs o)[4 * (8 * r.val + (Matrix.lane c).val) + j.val] = Word.twosByte (o.get r c).toInt (3 - j.val) := by
  have byte := getElem_outputs o r (Matrix.lane c) j inside
  rw [Matrix.lane_lane] at byte
  exact byte.trans (Word.getElem_bytesBig (o.get r c) j.isLt)

/-- Read as inputs, weights are a matrix with its columns reversed and then made its rows. -/
theorem ofInputs_weights (m : Operand) : ofInputs (weights m) = m.flip.transpose :=
  ofInputs_inputs m.flip.transpose

/-- Where each byte of a matrix goes, whatever was there before, and where each byte of a result is taken from:
inputs row by row, weights column by column from the last one on, results row by row with the lanes of each pair
exchanged and the most significant byte of each first. So weights taken for inputs are turned about, with their
columns reversed. -/
theorem formats_laid_out :
    (∀ (block : Vector UInt8 64) (m : Operand) (r c : Fin 8),
      (inputsOver block m)[8 * r.val + c.val]? = some (Word.twosByte (m.get r c).toInt 0)) ∧
    (∀ (block : Vector UInt8 64) (m : Operand) (r t : Fin 8),
      (weightsOver block m)[8 * t.val + r.val]? = some (Word.twosByte (m.get r t.rev).toInt 0)) ∧
    (∀ (block : Vector UInt8 256) (o : Output) (r c : Fin 8) (j : Fin 4),
      (outputsOver block o)[4 * (8 * r.val + (c.val ^^^ 1)) + j.val]? =
        some (Word.twosByte (o.get r c).toInt (3 - j.val))) ∧
    (∀ (block : Vector UInt8 256) (r c : Fin 8) (j : Fin 4),
      block[4 * (8 * r.val + (c.val ^^^ 1)) + j.val]? =
        some (Word.twosByte ((ofOutputs block).get r c).toInt (3 - j.val))) ∧
    ∀ (block : Vector UInt8 64) (m : Operand), ofInputs (weightsOver block m) = m.flip.transpose ∧
      ∀ r c, (ofInputs (weightsOver block m)).transpose.get r c = m.get r c.rev := by
  have results : ∀ (o : Output) (r c : Fin 8) (j : Fin 4),
      (outputs o)[4 * (8 * r.val + (c.val ^^^ 1)) + j.val]? = some (Word.twosByte (o.get r c).toInt (3 - j.val)) := by
    intro o r c j
    have bound := (Matrix.lane c).isLt
    have inside : 4 * (8 * r.val + (Matrix.lane c).val) + j.val < 256 := by omega
    exact (Vector.getElem?_eq_getElem inside).trans (congrArg some (getElem_outputs_lane o r c j inside))
  refine ⟨?_, ?_, ?_, ?_, ?_⟩
  · intro block m r c
    have inside : 8 * r.val + c.val < 64 := by omega
    rw [inputsOver_eq, Vector.getElem?_eq_getElem inside, getElem_inputs m r c inside, Word.toUInt8_eq]
  · intro block m r t
    have inside : 8 * t.val + r.val < 64 := by omega
    rw [weightsOver_eq, Vector.getElem?_eq_getElem inside, getElem_weights m r t inside, Word.toUInt8_eq]
  · intro block o r c j
    rw [outputsOver_eq, results]
  · intro block r c j
    rw [← results, outputs_ofOutputs]
  · intro block m
    rw [weightsOver_eq, ofInputs_weights, Matrix.transpose_transpose]
    exact ⟨rfl, m.get_flip⟩

end Wire

end Systolic
