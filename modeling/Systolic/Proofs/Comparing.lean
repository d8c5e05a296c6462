import Mathlib.Algebra.GroupWithZero.Nat
import Mathlib.Data.Fintype.Prod
import Mathlib.Data.List.Nodup
import Systolic.Check.Comparison
import Systolic.Proofs.Reference

namespace Systolic

namespace Comparison

variable {batch : Nat} {expected hardware : Output}

theorem mem_places (place : Fin 8 × Fin 8) : place ∈ places :=
  List.mem_flatMap.mpr ⟨place.1, List.mem_finRange _, List.mem_map.mpr ⟨place.2, List.mem_finRange _, rfl⟩⟩

theorem nodup_places : places.Nodup := by decide

theorem length_filter_places (p : Fin 8 × Fin 8 → Bool) :
    (places.filter p).length = (Finset.univ.filter fun place => p place).card := by
  rw [← List.toFinset_card_of_nodup (nodup_places.filter p)]
  congr 1
  ext place
  simp [mem_places]

/-- The places at which a matrix is not what it should be, in reading order. -/
def differing (expected hardware : Output) : List (Fin 8 × Fin 8) :=
  places.filter fun place => hardware.get place.1 place.2 ≠ expected.get place.1 place.2

theorem differing_nil : differing expected hardware = [] ↔ hardware = expected := by
  constructor
  · intro none
    ext row col
    have here := List.filter_eq_nil_iff.mp none (row, col) (mem_places _)
    simpa using here
  · rintro rfl
    simp [differing]

/-- What going over some places of a matrix adds to the counts. -/
theorem counts_checkElements (visited : List (Fin 8 × Fin 8)) (found : Comparison) :
    (visited.foldl (checkElement batch expected hardware) found).checked = found.checked + visited.length ∧
    (visited.foldl (checkElement batch expected hardware) found).mismatchCount = found.mismatchCount +
      (visited.filter fun place => hardware.get place.1 place.2 ≠ expected.get place.1 place.2).length := by
  induction visited generalizing found with
  | nil => exact ⟨rfl, rfl⟩
  | cons place rest ih =>
    obtain ⟨checked, counted⟩ := ih (checkElement batch expected hardware found place)
    rw [List.foldl_cons, checked, counted]
    by_cases right : hardware.get place.1 place.2 = expected.get place.1 place.2
    · simp only [checkElement, if_pos right, List.length_cons]
      rw [List.filter_cons_of_neg (by simp [right])]
      exact ⟨by omega, rfl⟩
    · simp only [checkElement, if_neg right, List.length_cons]
      rw [List.filter_cons_of_pos (by simp [right]), List.length_cons]
      exact ⟨by omega, by omega⟩

theorem counts_checkMatrix (batch : Nat) (expected hardware : Output) (found : Comparison) :
    (checkMatrix batch expected hardware found).checked = found.checked + 64 ∧
    (checkMatrix batch expected hardware found).mismatchCount =
      found.mismatchCount + (differing expected hardware).length :=
  counts_checkElements places found

variable {es hs : List Output}

/-- How many elements a comparison counts as wrong: those that differ, and all of every matrix that is missing. -/
def wrong (es hs : List Output) : Nat :=
  (List.zipWith (fun e h => (differing e h).length) es hs).sum + 64 * (es.length - hs.length)

theorem counts_checkFrom (es hs : List Output) (batch : Nat) (found : Comparison) :
    (checkFrom batch found es hs).checked = found.checked + 64 * es.length ∧
    (checkFrom batch found es hs).mismatchCount = found.mismatchCount + wrong es hs := by
  induction es generalizing batch found hs with
  | nil => exact ⟨rfl, by simp [checkFrom, wrong]⟩
  | cons e es ih =>
    cases hs with
    | nil =>
      obtain ⟨checked, counted⟩ := ih [] (batch + 1) found.checkMissing
      rw [checkFrom, checked, counted]
      simp only [checkMissing, wrong, List.zipWith_nil_right, List.sum_nil, List.length_cons, List.length_nil]
      exact ⟨by omega, by omega⟩
    | cons h hs =>
      obtain ⟨checked, counted⟩ := ih hs (batch + 1) (checkMatrix batch e h found)
      obtain ⟨here, differ⟩ := counts_checkMatrix batch e h found
      rw [checkFrom, checked, counted, here, differ]
      simp only [wrong, List.zipWith_cons_cons, List.sum_cons, List.length_cons]
      exact ⟨by omega, by omega⟩

theorem checked_compare (es hs : List Output) : (compare es hs).checked = 64 * es.length :=
  ((counts_checkFrom es hs 0 empty).1).trans (Nat.zero_add _)

theorem mismatchCount_compare (es hs : List Output) : (compare es hs).mismatchCount = wrong es hs :=
  ((counts_checkFrom es hs 0 empty).2).trans (Nat.zero_add _)

theorem wrong_zero : wrong es hs = 0 ↔ es <+: hs := by
  induction es generalizing hs with
  | nil => simp [wrong]
  | cons e es ih =>
    cases hs with
    | nil => simp [wrong]
    | cons h hs =>
      rw [List.cons_prefix_cons, ← ih, eq_comm (a := e), ← differing_nil, ← List.length_eq_zero_iff]
      simp only [wrong, List.zipWith_cons_cons, List.sum_cons, List.length_cons]
      omega

/-- A comparison passes if every matrix is there and as it should be. -/
theorem isPass_compare : (compare es hs).isPass = true ↔ es <+: hs := by
  rw [isPass, mismatchCount_compare, beq_iff_eq, wrong_zero]

/-- A batch passes if every result is as it should be. -/
theorem isPass_batch (batch : Nat) (expected results : Nat → Output) :
    (compare ((List.range batch).map expected) ((List.range batch).map results)).isPass = true ↔
      ∀ i < batch, results i = expected i := by
  have same : (List.range batch).map expected <+: (List.range batch).map results ↔
      (List.range batch).map expected = (List.range batch).map results :=
    ⟨fun start => start.eq_of_length (by simp), fun same => same ▸ List.prefix_rfl⟩
  rw [isPass_compare, same, List.map_inj_left]
  constructor
  · intro all i within
    exact (all i (List.mem_range.mpr within)).symm
  · intro all i among
    exact (all i (List.mem_range.mp among)).symm

theorem mismatchCount_batch (batch : Nat) (expected results : Nat → Output) :
    (compare ((List.range batch).map expected) ((List.range batch).map results)).mismatchCount =
      ((List.range batch).map fun i => (differing (expected i) (results i)).length).sum := by
  rw [mismatchCount_compare, wrong, List.zipWith_map, List.zipWith_self, List.length_map, List.length_map, Nat.sub_self]
  rfl

theorem checkElements_self (visited : List (Fin 8 × Fin 8)) (found : Comparison) :
    visited.foldl (checkElement batch expected expected) found =
      { found with checked := found.checked + visited.length } := by
  induction visited generalizing found with
  | nil => rfl
  | cons place rest ih =>
    rw [List.foldl_cons, checkElement, if_pos rfl, ih, List.length_cons, Nat.add_right_comm]
    rfl

theorem checkFrom_self (es : List Output) (batch : Nat) (found : Comparison) :
    checkFrom batch found es es = { found with checked := found.checked + 64 * es.length } := by
  induction es generalizing batch found with
  | nil => rfl
  | cons e es ih =>
    rw [checkFrom, checkMatrix, checkElements_self, ih, List.length_cons, Nat.mul_succ, Nat.add_comm (64 * es.length),
      ← Nat.add_assoc]
    rfl

/-- A comparison of results with themselves goes over all of them and finds nothing. -/
theorem compare_self (es : List Output) : compare es es = ⟨64 * es.length, 0, [], none⟩ := by
  rw [compare, checkFrom_self, empty, Nat.zero_add]

/-- What every matrix of a batch counts for at least, the batch does so many times over. -/
theorem mul_le_sum_range {counts : Nat → Nat} {least : Nat} (each : ∀ k, least ≤ counts k) (batch : Nat) :
    least * batch ≤ ((List.range batch).map counts).sum := by
  induction batch with
  | zero => exact Nat.le_refl 0
  | succ batch ih =>
    have last := each batch
    rw [List.range_succ, List.map_append, List.sum_append, List.map_singleton, List.sum_singleton, Nat.mul_succ]
    omega

end Comparison

namespace Matrix

open Comparison

/-- No two elements of a test matrix are equal. -/
theorem asymmetric_injective (b : Nat) :
    Function.Injective fun place : Fin 8 × Fin 8 => (asymmetric b).get place.1 place.2 := by
  have value : ∀ r c : Fin 8, ((asymmetric b).get r c).toInt = ((8 * r.val + c.val + b) % 256 : Nat) - 128 := by
    intro r c
    rw [asymmetric, get_ofFn]
    exact Int8.toInt_ofInt_of_le (by omega) (by omega)
  rintro ⟨row, col⟩ ⟨row', col'⟩ same
  have equal := congrArg Int8.toInt same
  rw [value, value] at equal
  dsimp only at equal
  have place : row = row' ∧ col = col' := by omega
  exact Prod.ext place.1 place.2

theorem card_asymmetric (b : Nat) (values : Finset Int8) :
    (Finset.univ.filter fun place : Fin 8 × Fin 8 => (asymmetric b).get place.1 place.2 ∈ values).card ≤ values.card :=
  Finset.card_le_card_of_injOn _ (fun _ among => (Finset.mem_filter.mp among).2) (asymmetric_injective b).injOn

/-- What only a few values of a test matrix may fail to have is had by all of its elements but as many. -/
theorem length_filter_asymmetric (b : Nat) (values : Finset Int8) {p : Fin 8 × Fin 8 → Bool}
    (others : ∀ place, (asymmetric b).get place.1 place.2 ∉ values → p place) :
    64 ≤ (places.filter p).length + values.card := by
  have few := card_asymmetric b values
  have all := Finset.card_filter_add_card_filter_not (s := (Finset.univ : Finset (Fin 8 × Fin 8)))
    (fun place => (asymmetric b).get place.1 place.2 ∈ values)
  have enough : (Finset.univ.filter fun place : Fin 8 × Fin 8 => (asymmetric b).get place.1 place.2 ∉ values).card ≤
      (places.filter p).length := by
    rw [length_filter_places]
    refine Finset.card_le_card fun place among => ?_
    exact Finset.mem_filter.mpr ⟨Finset.mem_univ place, others place (Finset.mem_filter.mp among).2⟩
  have count : (Finset.univ : Finset (Fin 8 × Fin 8)).card = 64 := rfl
  omega

theorem toInt32_injective : Function.Injective Int8.toInt32 := by
  intro v w same
  have value := congrArg Int32.toInt same
  rw [Int8.toInt_toInt32, Int8.toInt_toInt32] at value
  exact Int8.toInt_inj.mp value

end Matrix

end Systolic
