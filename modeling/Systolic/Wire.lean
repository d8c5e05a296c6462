import Systolic.Matrix
import Systolic.Word

namespace Systolic

/-- The whole blocks of `n` elements that a run is cut into, in order; what is left over at its end
is dropped. -/
def blocks {α : Type} (n : Nat) (run : List α) : List (Vector α n) :=
  if h : (run.take n).length = n ∧ 0 < n then
    ⟨(run.take n).toArray, by simpa using h.1⟩ :: blocks n (run.drop n)
  else []
termination_by run.length
decreasing_by
  simp only [List.length_take, List.length_drop] at *
  omega

namespace Wire

/-- Inputs are fed a row at a time, a byte to each element. -/
def inputs (m : Operand) : Vector UInt8 64 :=
  (m.rows.map fun row => row.map Int8.toUInt8).flatten

/-- Weights are shifted in from the far side of the array: a column at a time, the last one first. -/
def weights (m : Operand) : Vector UInt8 64 := inputs m.flip.transpose

/-- Results come back a row at a time as words with their most significant byte first, the two words
of each pair of lanes exchanged. -/
def outputs (m : Output) : Vector UInt8 256 :=
  (m.swapLanes.rows.map fun row => (row.map fun e => Word.bytesBig e.toUInt32).flatten).flatten

/-- The word in four bytes of a block, the least significant one first. -/
def getWord {n : Nat} (b : Vector UInt8 n) (offset : Nat) (inside : offset + 4 ≤ n) : UInt32 :=
  Word.ofBytes (.ofFn fun j => b[offset + j.val])

def setAt (m : Operand) (place : Fin 8 × Fin 8) (a : Int8) : Operand := m.set place.1 place.2 a

/-- Sets the elements of a slot one by one, in turn from either half: element `i` is set at `place i`. -/
def setSlot (place : Fin 8 → Fin 8 × Fin 8) (low high : Vector Int8 4) (m : Operand) : Operand :=
  (List.finRange 4).foldl
    (fun m k => setAt (setAt m (place (k.castAdd 4)) (low.get k)) (place (k.natAdd 4)) (high.get k)) m

/-- Reads an operand from eight slots of two words each. -/
@[irreducible] def ofSlots (place : Fin 8 → Fin 8 → Fin 8 × Fin 8) (b : Vector UInt8 64) : Operand :=
  (List.finRange 8).foldl
    (fun m t =>
      let low := Word.unpack (getWord b (8 * t.val) (by omega))
      let high := Word.unpack (getWord b (8 * t.val + 4) (by omega))
      setSlot (place t) low high m)
    (.fill 0)

/-- A slot for each row. -/
def ofInputs (b : Vector UInt8 64) : Operand := ofSlots (fun t i => (t, i)) b

/-- A slot for each column, from the last one on. -/
def ofWeights (b : Vector UInt8 64) : Operand := ofSlots (fun t i => (i, t.rev)) b

def ofOutputs (b : Vector UInt8 256) : Output :=
  .ofFn fun r c =>
    let lane := Matrix.lane c
    (Word.swapBytes (getWord b (4 * (8 * r.val + lane.val)) (by omega))).toInt32

def inputBatch (ms : List Operand) : List UInt8 := ms.flatMap fun m => (inputs m).toList

def weightBatch (ms : List Operand) : List UInt8 := ms.flatMap fun m => (weights m).toList

def ofOutputBatch (run : List UInt8) : List Output := (blocks 256 run).map ofOutputs

theorem length_inputBatch (ms : List Operand) : (inputBatch ms).length = 64 * ms.length := by
  induction ms with
  | nil => rfl
  | cons m rest ih => simp_all [inputBatch]; omega

theorem length_weightBatch (ms : List Operand) : (weightBatch ms).length = 64 * ms.length := by
  induction ms with
  | nil => rfl
  | cons m rest ih => simp_all [weightBatch]; omega

end Wire

end Systolic
