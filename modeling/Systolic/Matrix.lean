namespace Systolic

/-- An array is eight elements wide and eight deep, and so is every matrix it takes or gives. -/
structure Matrix (α : Type) where
  rows : Vector (Vector α 8) 8
deriving DecidableEq

/-- What the array takes in, as weights or as inputs. -/
abbrev Operand := Matrix Int8

/-- What the array gives back. -/
abbrev Output := Matrix Int32

namespace Matrix

variable {α β : Type}

def ofFn (f : Fin 8 → Fin 8 → α) : Matrix α :=
  ⟨.ofFn fun r => .ofFn fun c => f r c⟩

def get (m : Matrix α) (r c : Fin 8) : α := m.rows[r][c]

@[simp] theorem get_ofFn (f : Fin 8 → Fin 8 → α) (r c : Fin 8) : (ofFn f).get r c = f r c := by
  simp [ofFn, get]

@[ext] theorem ext {m n : Matrix α} (same : ∀ r c, m.get r c = n.get r c) : m = n := by
  obtain ⟨a⟩ := m
  obtain ⟨b⟩ := n
  congr 1
  ext r hr c hc
  exact same ⟨r, hr⟩ ⟨c, hc⟩

@[simp] theorem ofFn_get (m : Matrix α) : ofFn m.get = m := by
  ext r c
  simp

def fill (a : α) : Matrix α := ofFn fun _ _ => a

def set (m : Matrix α) (row col : Fin 8) (a : α) : Matrix α :=
  ⟨m.rows.set row (m.rows[row].set col a)⟩

def map (f : α → β) (m : Matrix α) : Matrix β := ofFn fun r c => f (m.get r c)

def transpose (m : Matrix α) : Matrix α := ofFn fun r c => m.get c r

/-- The columns in reverse. -/
def flip (m : Matrix α) : Matrix α := ofFn fun r c => m.get r c.rev

/-- The other lane of the pair that column `c` travels in. -/
def lane (c : Fin 8) : Fin 8 := ⟨c.val ^^^ 1, by revert c; decide⟩

theorem lane_lane (c : Fin 8) : lane (lane c) = c := by revert c; decide

/-- Each even column exchanged with the odd one after it. -/
def swapLanes (m : Matrix α) : Matrix α := ofFn fun r c => m.get r (lane c)

@[simp] theorem get_fill (a : α) (r c : Fin 8) : (fill a).get r c = a := by simp [fill]

theorem get_set (m : Matrix α) (row col r c : Fin 8) (a : α) :
    (m.set row col a).get r c = if r = row ∧ c = col then a else m.get r c := by
  simp only [set, get, Fin.getElem_fin, Vector.getElem_set, Fin.val_inj]
  by_cases sameRow : r = row
  · subst sameRow
    by_cases sameCol : c = col
    · simp [sameCol]
    · simp [sameCol, Ne.symm sameCol, Fin.val_inj]
  · simp [sameRow, Ne.symm sameRow]

@[simp] theorem get_map (f : α → β) (m : Matrix α) (r c : Fin 8) :
    (m.map f).get r c = f (m.get r c) := by simp [map]

@[simp] theorem get_transpose (m : Matrix α) (r c : Fin 8) : m.transpose.get r c = m.get c r := by
  simp [transpose]

@[simp] theorem get_flip (m : Matrix α) (r c : Fin 8) : m.flip.get r c = m.get r c.rev := by
  simp [flip]

@[simp] theorem get_swapLanes (m : Matrix α) (r c : Fin 8) :
    m.swapLanes.get r c = m.get r (lane c) := by
  simp [swapLanes]

@[simp] theorem transpose_transpose (m : Matrix α) : m.transpose.transpose = m := by
  ext r c
  simp

@[simp] theorem flip_flip (m : Matrix α) : m.flip.flip = m := by
  ext r c
  simp

@[simp] theorem swapLanes_swapLanes (m : Matrix α) : m.swapLanes.swapLanes = m := by
  ext r c
  simp [lane_lane]

def identity : Operand := ofFn fun r c => if r = c then 1 else 0

/-- The `b`-th test matrix: the numbers from -128 up, in reading order, from `b` places on and around
after 127. No two of its elements are equal, so a transposed or swapped result cannot pass for it. -/
def asymmetric (b : Nat) : Operand :=
  ofFn fun r c => Int8.ofInt (((8 * r.val + c.val + b) % 256 : Nat) - 128)

def widen (m : Operand) : Output := m.map Int8.toInt32

/-- The reference product. -/
def mul (a w : Operand) : Output :=
  ofFn fun r c => Fin.foldl 8 (fun sum k => sum + (a.get r k).toInt32 * (w.get k c).toInt32) 0

instance : HMul Operand Operand Output := ⟨mul⟩

end Matrix

end Systolic
