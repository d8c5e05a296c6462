import Mathlib.Data.Fintype.Prod
import Mathlib.GroupTheory.Perm.Support
import Systolic.Check.Benchmark
import Systolic.Proofs.Mismatches
import Systolic.Proofs.WireLayout

namespace Systolic

namespace Matrix

variable {α : Type}

/-- The same elements at other places: at each place the one that was at `π` of it. -/
def rearrange (m : Matrix α) (π : Equiv.Perm (Fin 8 × Fin 8)) : Matrix α :=
  ofFn fun r c => m.get (π (r, c)).1 (π (r, c)).2

@[simp] theorem get_rearrange (m : Matrix α) (π : Equiv.Perm (Fin 8 × Fin 8)) (r c : Fin 8) :
    (m.rearrange π).get r c = m.get (π (r, c)).1 (π (r, c)).2 := by
  simp [rearrange]

end Matrix

namespace Word

/-- The word whose bytes are those of another one from the last to the first. -/
def reverse (w : UInt32) : UInt32 := ofBytesBig (bytes w)

theorem bytes_reverse (w : UInt32) : bytes (reverse w) = (bytes w).reverse := by
  rw [reverse, ofBytesBig, bytes_ofBytes]

theorem toNat_twosByte (x : Int) (k : Nat) : ((twosByte x k).toNat : Int) = x / 256 ^ k % 256 := by
  have byte : (x / 256 ^ k % 256).toNat < 256 := by omega
  rw [twosByte, UInt8.toNat_ofNat_of_lt' byte]
  omega

/-- Of the numbers that an operand can hold only two are the same with their bytes reversed: those whose low byte has
nothing but their sign in it. -/
theorem reverse_operand {v : Int8} (same : (reverse v.toInt32.toUInt32).toInt32 = v.toInt32) : v = 0 ∨ v = -1 := by
  have fixed : reverse v.toInt32.toUInt32 = v.toInt32.toUInt32 := congrArg Int32.toUInt32 same
  have turned := bytes_reverse v.toInt32.toUInt32
  rw [fixed] at turned
  have ends : (bytes v.toInt32.toUInt32)[0] = (bytes v.toInt32.toUInt32).reverse[0] :=
    congrArg (fun b : Vector UInt8 4 => b[0]) turned
  rw [Vector.getElem_reverse, getElem_bytes_element _ (by omega), getElem_bytes_element _ (by omega),
    Int8.toInt_toInt32] at ends
  have above := v.le_toInt
  have below := v.toInt_lt
  have sign : v.toInt / 256 ^ 3 % 256 = if v.toInt < 0 then 255 else 0 := by
    split <;> omega
  have numbers := congrArg (fun byte : UInt8 => (byte.toNat : Int)) ends
  simp only [toNat_twosByte] at numbers
  have value : v.toInt = 0 ∨ v.toInt = -1 := by
    rw [sign] at numbers
    split at numbers <;> omega
  rcases value with zero | ones
  · exact .inl (Int8.toInt_inj.mp zero)
  · exact .inr (Int8.toInt_inj.mp ones)

end Word

namespace Matrix

def reverseBytes (m : Output) : Output := m.map fun e => (Word.reverse e.toUInt32).toInt32

end Matrix

namespace Comparison

variable {e h : Output} {es hs : List Output}

/-- Whether the `k`-th result is wrong at a place. -/
def WrongAt (es hs : List Output) (k : Nat) (place : Fin 8 × Fin 8) : Prop :=
  ∃ m : Mismatch, m.Of es hs ∧ m.batch = k ∧ (m.row, m.col) = place

theorem wrongAt_iff {k : Nat} {place : Fin 8 × Fin 8} (right : es[k]? = some e) (got : hs[k]? = some h) :
    WrongAt es hs k place ↔ h.get place.1 place.2 ≠ e.get place.1 place.2 := by
  constructor
  · rintro ⟨m, of, rfl, rfl⟩
    have expected := of.expected
    have hardware := of.hardware
    rw [right, Option.map_some] at expected
    rw [got, Option.map_some] at hardware
    rw [Option.some.inj expected, Option.some.inj hardware]
    exact of.differ
  · intro differ
    exact ⟨mismatchAt k e h place, ⟨by rw [mismatchAt, right]; rfl, by rw [mismatchAt, got]; rfl, differ⟩, rfl, rfl⟩

end Comparison

namespace Matrix

theorem widen_places (b : Nat) :
    Function.Injective fun place : Fin 8 × Fin 8 => (asymmetric b).widen.get place.1 place.2 := by
  have spread : (fun place : Fin 8 × Fin 8 => (asymmetric b).widen.get place.1 place.2) =
      Int8.toInt32 ∘ fun place : Fin 8 × Fin 8 => (asymmetric b).get place.1 place.2 := by
    funext place
    exact get_map ..
  rw [spread]
  exact toInt32_injective.comp (asymmetric_injective b)

theorem rearrange_eq_self {m : Output}
    (distinct : Function.Injective fun place : Fin 8 × Fin 8 => m.get place.1 place.2)
    (π : Equiv.Perm (Fin 8 × Fin 8)) : m.rearrange π = m ↔ π = 1 := by
  constructor
  · intro same
    ext1 place
    apply distinct
    have moved := congrArg (fun m' : Output => m'.get place.1 place.2) same
    rwa [get_rearrange] at moved
  · rintro rfl
    ext r c
    rw [get_rearrange, Equiv.Perm.one_apply]

/-- Where the elements of a matrix are all different, those that are wrong after a rearrangement are those that it
moves. -/
theorem length_differing_rearrange {m : Output}
    (distinct : Function.Injective fun place : Fin 8 × Fin 8 => m.get place.1 place.2)
    (π : Equiv.Perm (Fin 8 × Fin 8)) : (Comparison.differing m (m.rearrange π)).length = π.support.card := by
  rw [Comparison.differing, Comparison.length_filter_places]
  congr 1
  ext place
  rw [Finset.mem_filter, Equiv.Perm.mem_support, get_rearrange, decide_eq_true_iff]
  exact (and_iff_right (Finset.mem_univ place)).trans distinct.ne_iff

/-- Elements of a test matrix other than 0 and -1 are not the same with their bytes reversed. -/
theorem reverseBytes_asymmetric {b : Nat} {place : Fin 8 × Fin 8}
    (apart : (asymmetric b).get place.1 place.2 ∉ ({0, -1} : Finset Int8)) :
    (asymmetric b).widen.reverseBytes.get place.1 place.2 ≠ (asymmetric b).widen.get place.1 place.2 := by
  rw [reverseBytes, get_map, widen, get_map]
  intro same
  have value := Word.reverse_operand same
  exact apart (by simpa using value)

theorem length_differing_reverseBytes (b : Nat) :
    62 ≤ (Comparison.differing (asymmetric b).widen (asymmetric b).widen.reverseBytes).length := by
  have most := length_filter_asymmetric b {0, -1} fun place apart =>
    decide_eq_true_iff.mpr (reverseBytes_asymmetric apart)
  have two : ({0, -1} : Finset Int8).card = 2 := rfl
  rw [Comparison.differing]
  omega

end Matrix

namespace Benchmark

open Systolic.Matrix Systolic.Comparison

variable (layout : Layout) (n : Nat)

/-- The reference of a run in which the weights change nothing. -/
def unchanged : List Output := (inputs ⟨n, layout, .identity⟩).map (· * identity)

/-- Results of that run that are not where they belong, each matrix in its own way. -/
def rearranged (π : Nat → Equiv.Perm (Fin 8 × Fin 8)) : List Output :=
  (unchanged layout n).mapIdx fun k m => m.rearrange (π k)

/-- Results of that run with the bytes of each the wrong way round. -/
def reversed : List Output := (unchanged layout n).map reverseBytes

theorem unchanged_eq : unchanged layout n = (List.range n).map fun k => (asymmetric k).widen := by
  rw [unchanged, inputs, List.map_map]
  exact List.map_congr_left fun k _ => mul_identity (asymmetric k)

theorem rearranged_eq (π : Nat → Equiv.Perm (Fin 8 × Fin 8)) :
    rearranged layout n π = (List.range n).map fun k => (asymmetric k).widen.rearrange (π k) := by
  rw [rearranged, unchanged_eq]
  apply List.ext_getElem
  · simp
  · intro k _ _
    simp

theorem reversed_eq : reversed layout n = (List.range n).map fun k => (asymmetric k).widen.reverseBytes := by
  rw [reversed, unchanged_eq, List.map_map]
  rfl

theorem wrongAt_batch {expected results : Nat → Output} {k : Nat} {place : Fin 8 × Fin 8} (within : k < n) :
    WrongAt ((List.range n).map expected) ((List.range n).map results) k place ↔
      (results k).get place.1 place.2 ≠ (expected k).get place.1 place.2 := by
  have there : ∀ f : Nat → Output, ((List.range n).map f)[k]? = some (f k) := by
    intro f
    rw [List.getElem?_map, List.getElem?_range within, Option.map_some]
  exact wrongAt_iff (there expected) (there results)

/-- The test matrices give away results that are not where they belong. Their elements are all different, so with
weights that change nothing a rearrangement of the results, which may be another one in each matrix, makes just those
elements wrong that it moves. Results with their bytes the wrong way round are wrong in all but two elements of
each matrix, at most. -/
theorem rearrangements_fail :
    (∀ b, Function.Injective fun place : Fin 8 × Fin 8 => (asymmetric b).get place.1 place.2) ∧
    (∀ π : Nat → Equiv.Perm (Fin 8 × Fin 8),
      (∀ k < n, ∀ place, WrongAt (unchanged layout n) (rearranged layout n π) k place ↔ π k place ≠ place) ∧
      (compare (unchanged layout n) (rearranged layout n π)).mismatchCount =
        ((List.range n).map fun k => (π k).support.card).sum ∧
      ((compare (unchanged layout n) (rearranged layout n π)).isPass = true ↔ ∀ k < n, π k = 1)) ∧
    (∀ k < n, ∃ alike : Finset (Fin 8 × Fin 8), alike.card ≤ 2 ∧
      ∀ place, place ∉ alike → WrongAt (unchanged layout n) (reversed layout n) k place) ∧
    62 * n ≤ (compare (unchanged layout n) (reversed layout n)).mismatchCount := by
  rw [unchanged_eq, reversed_eq, mismatchCount_batch]
  refine ⟨asymmetric_injective, ?_, ?_, ?_⟩
  · intro π
    rw [rearranged_eq, mismatchCount_batch, isPass_batch]
    refine ⟨?_, ?_, ?_⟩
    · intro k within place
      rw [wrongAt_batch n within, get_rearrange]
      exact (widen_places k).ne_iff
    · exact congrArg List.sum (List.map_congr_left fun k _ => length_differing_rearrange (widen_places k) (π k))
    · exact forall₂_congr fun k _ => rearrange_eq_self (widen_places k) (π k)
  · intro k within
    refine ⟨_, card_asymmetric k {0, -1}, ?_⟩
    intro place other
    have apart : (asymmetric k).get place.1 place.2 ∉ ({0, -1} : Finset Int8) := by simpa using other
    exact (wrongAt_batch n within).mpr (reverseBytes_asymmetric apart)
  · exact mul_le_sum_range length_differing_reverseBytes n

/-- Three results that are all transposed: the 56 elements off the diagonal of each are wrong. -/
theorem transposed_results_fail :
    let transpose : Equiv.Perm (Fin 8 × Fin 8) := Equiv.prodComm _ _
    WrongAt (unchanged .default 3) (rearranged .default 3 fun _ => transpose) 2 (0, 7) ∧
    (compare (unchanged .default 3) (rearranged .default 3 fun _ => transpose)).mismatchCount = 168 ∧
    (compare (unchanged .default 3) (rearranged .default 3 fun _ => transpose)).isPass = false := by
  intro transpose
  obtain ⟨-, moved, -⟩ := rearrangements_fail .default 3
  obtain ⟨wrong, count, passes⟩ := moved fun _ => transpose
  have moves : transpose (0, 7) ≠ (0, 7) := by decide
  have support : transpose.support.card = 56 := by decide +kernel
  refine ⟨(wrong 2 (by decide) (0, 7)).mpr moves, ?_, ?_⟩
  · simpa [support] using count
  · rw [Bool.eq_false_iff, Ne, passes]
    intro still
    exact moves (congrFun (congrArg DFunLike.coe (still 0 (by decide))) (0, 7))

end Benchmark

end Systolic
