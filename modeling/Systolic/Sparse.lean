import Std.Data.ExtTreeMap

namespace Systolic

/-- A cell for every natural number, each holding zero until something else is put there. Cells at
zero are not kept, so two stores whose cells agree are the same store. -/
structure Sparse (α : Type) [OfNat α 0] where
  cells : Std.ExtTreeMap Nat α
  nonzero : ∀ i : Nat, cells[i]? ≠ some 0

namespace Sparse

variable {α : Type} [OfNat α 0]

def empty : Sparse α := ⟨∅, by simp⟩

def get (s : Sparse α) (i : Nat) : α := s.cells[i]?.getD 0

@[simp] theorem get_empty (i : Nat) : (empty : Sparse α).get i = 0 := by simp [empty, get]

@[ext] theorem ext {s t : Sparse α} (same : ∀ i, s.get i = t.get i) : s = t := by
  obtain ⟨a, ha⟩ := s
  obtain ⟨b, hb⟩ := t
  have cells : a = b := by
    apply Std.ExtTreeMap.ext_getElem?
    intro i
    have at_i := same i
    have hai := ha i
    have hbi := hb i
    simp only [get] at at_i
    cases hx : a[i]? <;> cases hy : b[i]? <;> simp_all
  subst cells
  rfl

variable [DecidableEq α]

def set (s : Sparse α) (i : Nat) (a : α) : Sparse α where
  cells := if a = 0 then s.cells.erase i else s.cells.insert i a
  nonzero j := by
    have kept := s.nonzero j
    by_cases same : i = j <;> split <;>
      simp_all [Std.ExtTreeMap.getElem?_erase, Std.ExtTreeMap.getElem?_insert]

theorem get_set (s : Sparse α) (i j : Nat) (a : α) :
    (s.set i a).get j = if i = j then a else s.get j := by
  unfold set get
  by_cases zero : a = 0 <;> by_cases same : i = j <;>
    simp [zero, same, Std.ExtTreeMap.getElem?_erase, Std.ExtTreeMap.getElem?_insert]

omit [DecidableEq α] in
theorem filter_nonzero (s : Sparse α) (keep : Nat → Bool) (i : Nat) :
    (s.cells.filter fun k _ => keep k)[i]? ≠ some 0 := by
  have := s.nonzero i
  rw [Std.ExtTreeMap.getElem?_filter']
  cases h : s.cells[i]? <;> simp_all [Option.filter]

/-- Zero in every cell that `keep` does not hold of. The cost is that of the cells in use, however
long the range that is given up. -/
def keepOnly (s : Sparse α) (keep : Nat → Bool) : Sparse α where
  cells := s.cells.filter fun k _ => keep k
  nonzero := s.filter_nonzero keep

omit [DecidableEq α] in
theorem get_keepOnly (s : Sparse α) (keep : Nat → Bool) (i : Nat) :
    (s.keepOnly keep).get i = if keep i then s.get i else 0 := by
  unfold keepOnly get
  simp only [Std.ExtTreeMap.getElem?_filter']
  cases h : s.cells[i]? <;> cases k : keep i <;> simp [Option.filter]

instance : DecidableEq (Sparse α) := fun s t =>
  if h : s.cells = t.cells then
    .isTrue (by cases s; cases t; subst h; rfl)
  else .isFalse fun e => h (e ▸ rfl)

end Sparse

end Systolic
