import Mathlib.Algebra.BigOperators.Fin
import Mathlib.Algebra.Order.BigOperators.Group.Finset
import Mathlib.Algebra.Order.Ring.Abs
import Mathlib.Algebra.Order.Ring.Int
import Systolic.Matrix

namespace Systolic

namespace Word

variable {sum word : Int32} {x total bound : Int} {n : Nat}

/-- The word for a number with its sign, if 32 bits are enough for it. -/
def fit? (x : Int) : Option Int32 := if -2 ^ 31 ≤ x ∧ x < 2 ^ 31 then some (Int32.ofInt x) else none

/-- A sum that is refused rather than brought back into 32 bits. -/
def add? (x y : Int32) : Option Int32 := fit? (x.toInt + y.toInt)

def mul? (x y : Int32) : Option Int32 := fit? (x.toInt * y.toInt)

theorem fit?_eq_some : fit? x = some word ↔ word.toInt = x := by
  unfold fit?
  constructor
  · intro found
    split at found
    · next fits =>
      cases found
      exact Int32.toInt_ofInt_of_le fits.1 fits.2
    · cases found
  · rintro rfl
    rw [if_pos ⟨word.le_toInt, word.toInt_lt⟩, Int32.ofInt_toInt]

theorem bmod_of_abs_lt (fits : |x| < 2 ^ 31) : x.bmod (2 ^ 32) = x := by
  obtain ⟨low, high⟩ := abs_lt.mp fits
  exact Int.bmod_eq_of_le_mul_two (by omega) (by omega)

theorem mul_exact_of_fits {x y : Int32} (fits : |x.toInt * y.toInt| < 2 ^ 31) :
    (x * y).toInt = x.toInt * y.toInt := by
  rw [Int32.toInt_mul, bmod_of_abs_lt fits]

/-- A word is added to a sum as it is to the number that the sum stands for. -/
theorem add_exact_of_fits (soFar : sum.toInt = total) (fits : |total + word.toInt| < 2 ^ 31) :
    (sum + word).toInt = total + word.toInt := by
  rw [Int32.toInt_add, soFar, bmod_of_abs_lt fits]

theorem abs_sum_le {f : Fin n → Int} (small : ∀ k, |f k| ≤ bound) : |∑ k, f k| ≤ n * bound := by
  calc |∑ k, f k|
      _ ≤ ∑ k, |f k| := Finset.abs_sum_le_sum_abs ..
      _ ≤ Finset.univ.card • bound := Finset.sum_le_card_nsmul _ _ _ fun k _ => small k
      _ = n * bound := by rw [Finset.card_univ, Fintype.card_fin, nsmul_eq_mul]

/-- Words that are small for how many they are add up to their sum, and none of the sums on the way is refused. -/
theorem foldl_add_exact {words : Fin n → Int32} (small : ∀ k, |(words k).toInt| ≤ bound) (fits : n * bound < 2 ^ 31) :
    Fin.foldlM n (fun sum k => add? sum (words k)) 0 = some (Fin.foldl n (fun sum k => sum + words k) 0) ∧
    (Fin.foldl n (fun sum k => sum + words k) 0).toInt = ∑ k, (words k).toInt := by
  induction n with
  | zero =>
    rw [Fin.foldlM_zero, Fin.foldl_zero]
    exact ⟨rfl, rfl⟩
  | succ n ih =>
    have whole := abs_sum_le small
    have nonneg : 0 ≤ bound := (abs_nonneg _).trans (small 0)
    rw [Nat.cast_succ, add_mul, one_mul] at fits whole
    -- What is added up before the last word needs no more room than the whole.
    obtain ⟨passes, soFar⟩ := ih (fun k => small k.castSucc) (by omega)
    rw [Fin.sum_univ_castSucc] at whole ⊢
    have last := add_exact_of_fits soFar (whole.trans_lt fits)
    rw [Fin.foldlM_succ_last, Fin.foldl_succ_last]
    constructor
    · dsimp only
      rw [passes]
      exact fit?_eq_some.mpr (last.trans (congrArg (· + _) soFar.symm))
    · exact last

end Word

namespace Matrix

open Word

variable {α : Type}

/-- A matrix of elements that may be refused, in reading order. -/
def ofFn? (f : Fin 8 → Fin 8 → Option α) : Option (Matrix α) :=
  (Vector.ofFnM fun r => Vector.ofFnM fun c => f r c).map Matrix.mk

theorem ofFn?_some (f : Fin 8 → Fin 8 → α) : ofFn? (fun r c => some (f r c)) = some (ofFn f) := by
  have row : ∀ r, (Vector.ofFnM fun c => some (f r c)) = some (Vector.ofFn fun c => f r c) :=
    fun r => Vector.ofFnM_pure
  have rows : (Vector.ofFnM fun r => some (Vector.ofFn fun c => f r c)) =
      some (Vector.ofFn fun r => Vector.ofFn fun c => f r c) := Vector.ofFnM_pure
  simp only [ofFn?, row]
  rw [rows]
  rfl

variable (a w : Operand) (r c : Fin 8)

/-- What the `k`-th column of `a` and the `k`-th row of `w` add to an element. -/
def product (k : Fin 8) : Int32 := (a.get r k).toInt32 * (w.get k c).toInt32

/-- What the sum for an element has come to after the first `n` products. -/
def runningSum (n : Fin 9) : Int32 :=
  Fin.foldl n (fun sum k => sum + product a w r c (k.castLE n.is_le)) 0

/-- The reference product where nothing may overflow: it is refused with the first product or sum that does not fit. -/
def mul? : Option Output :=
  ofFn? fun r c => Fin.foldlM 8 (fun sum k => do
    let product ← Word.mul? (a.get r k).toInt32 (w.get k c).toInt32
    add? sum product) 0

theorem abs_toInt_le (e : Int8) : |e.toInt| ≤ 2 ^ 7 := by
  have above := e.le_toInt
  have below := e.toInt_lt
  exact abs_le.mpr ⟨above, by omega⟩

theorem abs_mul_toInt_le (e f : Int8) : |e.toInt * f.toInt| ≤ 2 ^ 14 := by
  rw [abs_mul]
  exact mul_le_mul (abs_toInt_le e) (abs_toInt_le f) (abs_nonneg _) (by decide)

theorem toInt_product (k : Fin 8) : (product a w r c k).toInt = (a.get r k).toInt * (w.get k c).toInt := by
  have fits := abs_mul_toInt_le (a.get r k) (w.get k c)
  rw [← Int8.toInt_toInt32, ← Int8.toInt_toInt32] at fits ⊢
  exact mul_exact_of_fits (fits.trans_lt (by decide))

theorem abs_product_le (k : Fin 8) : |(product a w r c k).toInt| ≤ 2 ^ 14 := by
  rw [toInt_product]
  exact abs_mul_toInt_le _ _

theorem get_mul : (a * w).get r c = runningSum a w r c (.last 8) := get_ofFn ..

section Running

variable (n : Fin 9)

theorem runningSum_exact :
    Fin.foldlM n (fun sum k => add? sum (product a w r c (k.castLE n.is_le))) 0 = some (runningSum a w r c n) ∧
    (runningSum a w r c n).toInt = ∑ k : Fin n, (product a w r c (k.castLE n.is_le)).toInt :=
  foldl_add_exact (fun k => abs_product_le a w r c _) (by omega)

theorem toInt_runningSum : (runningSum a w r c n).toInt =
    ∑ k : Fin n, (a.get r (k.castLE n.is_le)).toInt * (w.get (k.castLE n.is_le) c).toInt := by
  rw [(runningSum_exact a w r c n).2]
  exact Finset.sum_congr rfl fun k _ => toInt_product a w r c _

theorem abs_runningSum_le : |(runningSum a w r c n).toInt| ≤ 8 * 2 ^ 14 := by
  rw [(runningSum_exact a w r c n).2]
  have bounded : |∑ k : Fin n, (product a w r c (k.castLE n.is_le)).toInt| ≤ n * 2 ^ 14 :=
    abs_sum_le fun k => abs_product_le a w r c _
  omega

end Running

theorem toInt_mul : ((a * w).get r c).toInt = ∑ k, (a.get r k).toInt * (w.get k c).toInt := by
  rw [get_mul]
  exact toInt_runningSum a w r c (.last 8)

theorem mul?_eq : mul? a w = some (a * w) := by
  have checked : ∀ r c k, Word.mul? (a.get r k).toInt32 (w.get k c).toInt32 = some (product a w r c k) := by
    intro r c k
    refine fit?_eq_some.mpr ?_
    rw [toInt_product, Int8.toInt_toInt32, Int8.toInt_toInt32]
  have element : ∀ r c, Fin.foldlM 8 (fun sum k => add? sum (product a w r c k)) 0 = some ((a * w).get r c) := by
    intro r c
    rw [get_mul]
    exact (runningSum_exact a w r c (.last 8)).1
  simp only [mul?, checked, Option.bind_eq_bind, Option.bind_some, element]
  rw [ofFn?_some, ofFn_get]

/-- In a product turned over the two factors of each term change places. -/
theorem transpose_mul : (a * w).transpose = w.transpose * a.transpose := by
  ext r c
  rw [get_transpose, ← Int32.toInt_inj, toInt_mul, toInt_mul]
  refine Finset.sum_congr rfl fun k _ => ?_
  rw [get_transpose, get_transpose, mul_comm]

theorem mul_identity : a * identity = a.widen := by
  have unit : ∀ k c : Fin 8, (identity.get k c).toInt = if k = c then 1 else 0 := by
    intro k c
    rw [identity, get_ofFn]
    split <;> rfl
  ext r c
  rw [← Int32.toInt_inj, toInt_mul, widen, get_map, Int8.toInt_toInt32]
  simp only [unit, mul_ite, mul_one, mul_zero, Finset.sum_ite_eq', Finset.mem_univ, if_true]

theorem transpose_identity : identity.transpose = identity := by
  ext r c
  simp only [identity, get_transpose, get_ofFn, eq_comm]

theorem identity_mul : identity * a = a.widen := by
  have turned := transpose_mul a.transpose identity
  rw [mul_identity, transpose_identity, transpose_transpose] at turned
  rw [← turned]
  ext r c
  simp only [widen, get_transpose, get_map]

/-- The reference product is exact. Each of its products and each sum on the way is the number that it should be and
far from the limits of 32 bits, so that none is refused where all have to fit, and each element is the sum that
defines it. Hence the identity on either side changes nothing but the width, and the product turned over is that of
the operands turned over and exchanged. -/
theorem product_exact :
    (∀ r c k, (product a w r c k).toInt = (a.get r k).toInt * (w.get k c).toInt ∧
      |(product a w r c k).toInt| ≤ 2 ^ 14) ∧
    (∀ r c n, (runningSum a w r c n).toInt =
        ∑ k : Fin n, (a.get r (k.castLE n.is_le)).toInt * (w.get (k.castLE n.is_le) c).toInt ∧
      |(runningSum a w r c n).toInt| ≤ 8 * 2 ^ 14) ∧
    mul? a w = some (a * w) ∧
    (∀ r c, (a * w).get r c = runningSum a w r c (.last 8) ∧
      ((a * w).get r c).toInt = ∑ k, (a.get r k).toInt * (w.get k c).toInt) ∧
    a * identity = a.widen ∧ identity * a = a.widen ∧
    (a * w).transpose = w.transpose * a.transpose := by
  refine ⟨?_, ?_, mul?_eq a w, ?_, mul_identity a, identity_mul a, transpose_mul a w⟩
  · exact fun r c k => ⟨toInt_product a w r c k, abs_product_le a w r c k⟩
  · exact fun r c n => ⟨toInt_runningSum a w r c n, abs_runningSum_le a w r c n⟩
  · exact fun r c => ⟨get_mul a w r c, toInt_mul a w r c⟩

/-- The bound is met. -/
example : ((fill (-128) : Operand) * (fill (-128) : Operand)).get 4 5 = 8 * 2 ^ 14 := by decide

end Matrix

end Systolic
