import Mathlib.Algebra.Group.Nat.Defs
import Mathlib.Logic.Function.Basic
import Systolic.Proofs.Codec

namespace Systolic

variable {α ι : Type} {n : Nat}

/-- Runs of rows are the same if they are so element by element. -/
theorem ext_rows {m : Nat} {a b : Vector α (n * m)}
    (same : ∀ k c, k < n → c < m → ∀ inside : m * k + c < n * m, a[m * k + c] = b[m * k + c]) : a = b := by
  apply Vector.ext
  intro i bound
  have whole : m * (i / m) + i % m = i := Nat.div_add_mod i m
  have positive : 0 < m := Nat.pos_of_mul_pos_left (Nat.zero_lt_of_lt bound)
  have row : i / m < n := Nat.div_lt_of_lt_mul (by rwa [Nat.mul_comm])
  have element := same (i / m) (i % m) row (Nat.mod_lt i positive) (by rwa [whole])
  simpa only [whole] using element

theorem ext_words {a b : Vector UInt8 256}
    (same : ∀ (r c : Fin 8) (j : Fin 4) (inside : 4 * (8 * r.val + c.val) + j.val < 256),
      a[4 * (8 * r.val + c.val) + j.val] = b[4 * (8 * r.val + c.val) + j.val]) : a = b := by
  refine ext_rows (m := 4) (n := 64) ?_
  intro k j word byte inside
  have whole : 8 * (k / 8) + k % 8 = k := Nat.div_add_mod k 8
  have element := same ⟨k / 8, by omega⟩ ⟨k % 8, by omega⟩ ⟨j, byte⟩ (by dsimp only; omega)
  simpa only [whole] using element

namespace Word

/-- A byte put above the `k` bytes that a word is made of so far. -/
theorem toNat_or_byte {w : UInt32} {k : Nat} (b : UInt8) (low : w.toNat < 2 ^ (8 * k)) (fits : k < 4) :
    (w ||| b.toUInt32 <<< UInt32.ofNat (8 * k)).toNat = w.toNat + b.toNat * 2 ^ (8 * k) := by
  have byte := b.toNat_lt
  have shift : (UInt32.ofNat (8 * k)).toNat % 32 = 8 * k := by
    rw [UInt32.toNat_ofNat_of_lt' (Nat.lt_trans (by omega : 8 * k < 32) (by decide))]
    omega
  have whole : b.toNat * 2 ^ (8 * k) < 2 ^ 32 := by
    have cases : k = 0 ∨ k = 1 ∨ k = 2 ∨ k = 3 := by omega
    rcases cases with rfl | rfl | rfl | rfl <;> omega
  rw [UInt32.toNat_or, UInt32.toNat_shiftLeft, shift, UInt8.toNat_toUInt32, Nat.shiftLeft_eq,
    Nat.mod_eq_of_lt whole, Nat.or_comm, ← Nat.shiftLeft_eq, ← Nat.shiftLeft_add_eq_or_of_lt low,
    Nat.shiftLeft_eq, Nat.add_comm]

/-- Four elements in a word, the first one in its lowest byte. -/
def pack (es : Vector Int8 4) : UInt32 :=
  Fin.foldl 4 (fun w k => w ||| es[k].toUInt8.toUInt32 <<< UInt32.ofNat (8 * k.val)) 0

theorem bytes_pack (es : Vector Int8 4) : bytes (pack es) = es.map Int8.toUInt8 := by
  have b0 := es[0].toUInt8.toNat_lt
  have b1 := es[1].toUInt8.toNat_lt
  have b2 := es[2].toUInt8.toNat_lt
  have b3 := es[3].toUInt8.toNat_lt
  have first := toNat_or_byte (w := 0) (k := 0) es[0].toUInt8 (by decide) (by decide)
  have second := toNat_or_byte (k := 1) es[1].toUInt8 (by rw [first]; simp; omega) (by decide)
  have third := toNat_or_byte (k := 2) es[2].toUInt8 (by rw [second, first]; simp; omega) (by decide)
  have fourth := toNat_or_byte (k := 3) es[3].toUInt8 (by rw [third, second, first]; simp; omega) (by decide)
  have packed : pack es = ofBytes (es.map Int8.toUInt8) := by
    apply UInt32.toNat.inj
    refine fourth.trans ?_
    rw [third, second, first]
    simp [ofBytes]
    omega
  rw [packed, bytes_ofBytes]

end Word

namespace Wire

theorem inputs_ofInputs (b : Vector UInt8 64) : inputs (ofInputs b) = b := by
  refine ext_rows (m := 8) (n := 8) ?_
  intro r c row col inside
  refine (getElem_inputs (ofInputs b) ⟨r, row⟩ ⟨c, col⟩ inside).trans ?_
  rw [ofInputs_eq, Matrix.get_ofFn]
  rfl

theorem weights_ofWeights (b : Vector UInt8 64) : weights (ofWeights b) = b := by
  rw [weights, ofWeights_eq, Matrix.flip_flip, Matrix.transpose_transpose, inputs_ofInputs]

theorem outputs_ofOutputs (b : Vector UInt8 256) : outputs (ofOutputs b) = b := by
  apply ext_words
  intro r c j inside
  rw [getElem_outputs, get_ofOutputs, UInt32.toUInt32_toInt32, Word.bytesBig_ofBytesBig]
  simp [Matrix.lane_lane]

/-- Puts a word over four bytes of a block, the least significant one first. -/
def putWord (block : Vector UInt8 n) (offset : Nat) (w : UInt32) : Vector UInt8 n :=
  .ofFn fun i => if h : offset ≤ i.val ∧ i.val < offset + 4 then (Word.bytes w)[i.val - offset] else block[i]

/-- Puts a word for every key, at its index among the words of a block. -/
def putWords (keys : List ι) (index : ι → Nat) (word : ι → UInt32) (block : Vector UInt8 n) : Vector UInt8 n :=
  keys.foldl (fun block k => putWord block (4 * index k) (word k)) block

theorem getElem_putWord (block : Vector UInt8 n) (offset : Nat) (w : UInt32) (j : Fin 4)
    (inside : offset + j.val < n) : (putWord block offset w)[offset + j.val] = (Word.bytes w)[j] := by
  simp [putWord]

theorem getElem_putWord_other (block : Vector UInt8 n) {offset i : Nat} (w : UInt32) (inside : i < n)
    (outside : i < offset ∨ offset + 4 ≤ i) : (putWord block offset w)[i] = block[i] := by
  simp [putWord]
  omega

/-- A word that was put is found at its index, whatever was put elsewhere before it or after it. -/
theorem getElem_putWords {index : ι → Nat} (injective : Function.Injective index) (word : ι → UInt32)
    (block : Vector UInt8 n) {keys : List ι} {k : ι} (j : Fin 4) (inside : 4 * index k + j.val < n)
    (put : k ∈ keys ∨ block[4 * index k + j.val] = (Word.bytes (word k))[j]) :
    (putWords keys index word block)[4 * index k + j.val] = (Word.bytes (word k))[j] := by
  induction keys generalizing block with
  | nil =>
    rcases put with member | there
    · nomatch member
    · exact there
  | cons l keys ih =>
    apply ih
    by_cases same : k = l
    · subst same
      exact .inr (getElem_putWord block _ _ j inside)
    · rcases put with member | there
      · exact .inl ((List.mem_cons.mp member).resolve_left same)
      · have apart : index k ≠ index l := fun equal => same (injective equal)
        exact .inr ((getElem_putWord_other block _ inside (by omega)).trans there)

/-- The places of eight rows of `n`, row after row. -/
def places (n : Nat) : List (Fin 8 × Fin n) :=
  (List.finRange 8).flatMap fun r => (List.finRange n).map fun c => (r, c)

theorem mem_places (place : Fin 8 × Fin n) : place ∈ places n := by
  simp [places]

/-- An operand put word by word, two to a slot, over what a block held before: element `i` of slot `t` is
`element t i`. -/
def slotsOver (block : Vector UInt8 64) (element : Fin 8 → Fin 8 → Int8) : Vector UInt8 64 :=
  putWords (places 2) (fun half => 2 * half.1.val + half.2.val)
    (fun half => Word.pack (.ofFn fun k => element half.1 ⟨4 * half.2.val + k.val, by omega⟩)) block

/-- A slot for each row. -/
def inputsOver (block : Vector UInt8 64) (m : Operand) : Vector UInt8 64 := slotsOver block m.get

/-- A slot for each column, from the last one on. -/
def weightsOver (block : Vector UInt8 64) (m : Operand) : Vector UInt8 64 := slotsOver block fun t r => m.get r t.rev

/-- Results put word by word over what a block held before, each word with its bytes exchanged and in the
other lane of its pair. -/
def outputsOver (block : Vector UInt8 256) (m : Output) : Vector UInt8 256 :=
  putWords (places 8) (fun place => 8 * place.1.val + (Matrix.lane place.2).val)
    (fun place => Word.swapBytes (m.get place.1 place.2).toUInt32) block

theorem slotsOver_eq (block : Vector UInt8 64) (element : Fin 8 → Fin 8 → Int8) :
    slotsOver block element = inputs (.ofFn element) := by
  have injective : Function.Injective fun half : Fin 8 × Fin 2 => 2 * half.1.val + half.2.val := by
    rintro ⟨r, h⟩ ⟨r', h'⟩ equal
    dsimp only at equal
    exact Prod.ext (Fin.ext (by dsimp only; omega)) (Fin.ext (by dsimp only; omega))
  refine ext_rows (m := 8) (n := 8) ?_
  intro r c row col inside
  have half : 4 * (2 * r + c / 4) + c % 4 = 8 * r + c := by omega
  have column : 4 * (c / 4) + c % 4 = c := Nat.div_add_mod c 4
  have put := getElem_putWords injective
    (fun half => Word.pack (.ofFn fun k => element half.1 ⟨4 * half.2.val + k.val, by omega⟩)) block
    ⟨c % 4, Nat.mod_lt c (by decide)⟩ (by dsimp only; omega) (.inl (mem_places (⟨r, row⟩, ⟨c / 4, by omega⟩)))
  simp only [half] at put
  refine put.trans (Eq.trans ?_ (getElem_inputs (.ofFn element) ⟨r, row⟩ ⟨c, col⟩ inside).symm)
  rw [Word.bytes_pack, Matrix.get_ofFn]
  simp [column]

theorem inputsOver_eq (block : Vector UInt8 64) (m : Operand) : inputsOver block m = inputs m := by
  rw [inputsOver, slotsOver_eq, Matrix.ofFn_get]

theorem weightsOver_eq (block : Vector UInt8 64) (m : Operand) : weightsOver block m = weights m := by
  have turned : Matrix.ofFn (fun t r => m.get r t.rev) = m.flip.transpose := by
    ext t r
    rw [Matrix.get_ofFn, Matrix.get_transpose, Matrix.get_flip]
  rw [weightsOver, slotsOver_eq, turned, weights]

theorem outputsOver_eq (block : Vector UInt8 256) (m : Output) : outputsOver block m = outputs m := by
  have injective : Function.Injective fun place : Fin 8 × Fin 8 => 8 * place.1.val + (Matrix.lane place.2).val := by
    rintro ⟨r, c⟩ ⟨r', c'⟩ equal
    dsimp only at equal
    have lanes : Matrix.lane c = Matrix.lane c' := Fin.ext (by omega)
    have columns : c = c' := by rw [← Matrix.lane_lane c, lanes, Matrix.lane_lane]
    exact Prod.ext (Fin.ext (by dsimp only; omega)) columns
  apply ext_words
  intro r c j inside
  have put := getElem_putWords injective
    (fun place => Word.swapBytes (m.get place.1 place.2).toUInt32) block j
    (by dsimp only; rwa [Matrix.lane_lane]) (.inl (mem_places (r, Matrix.lane c)))
  simp only [Matrix.lane_lane] at put
  rw [getElem_outputs]
  refine put.trans ?_
  rw [Word.swapBytes, Word.bytes_ofBytes]

theorem inputs_bijective : Function.Bijective inputs :=
  Function.bijective_iff_has_inverse.mpr ⟨ofInputs, ofInputs_inputs, inputs_ofInputs⟩

theorem weights_bijective : Function.Bijective weights :=
  Function.bijective_iff_has_inverse.mpr ⟨ofWeights, ofWeights_weights, weights_ofWeights⟩

theorem outputs_bijective : Function.Bijective outputs :=
  Function.bijective_iff_has_inverse.mpr ⟨ofOutputs, ofOutputs_outputs, outputs_ofOutputs⟩

/-- Each format and its reading undo each other, on every matrix and on every block. What is written covers
the whole of a block, so that nothing hangs on what the block held before. -/
theorem formats_round_trip :
    (∀ (block : Vector UInt8 64) (m : Operand),
      ofInputs (inputsOver block m) = m ∧ ofWeights (weightsOver block m) = m) ∧
    (∀ (block : Vector UInt8 256) (o : Output), ofOutputs (outputsOver block o) = o) ∧
    (∀ block b : Vector UInt8 64, inputsOver block (ofInputs b) = b ∧ weightsOver block (ofWeights b) = b) ∧
    (∀ block b : Vector UInt8 256, outputsOver block (ofOutputs b) = b) ∧
    (Function.Bijective inputs ∧ Function.Bijective weights ∧ Function.Bijective outputs) ∧
    (∀ block : Vector UInt8 64, inputsOver block = inputs ∧ weightsOver block = weights) ∧
    ∀ block : Vector UInt8 256, outputsOver block = outputs := by
  refine ⟨?_, ?_, ?_, ?_, ⟨inputs_bijective, weights_bijective, outputs_bijective⟩, ?_, ?_⟩
  · intro block m
    rw [inputsOver_eq, weightsOver_eq]
    exact ⟨ofInputs_inputs m, ofWeights_weights m⟩
  · intro block o
    rw [outputsOver_eq]
    exact ofOutputs_outputs o
  · intro block b
    rw [inputsOver_eq, weightsOver_eq]
    exact ⟨inputs_ofInputs b, weights_ofWeights b⟩
  · intro block b
    rw [outputsOver_eq]
    exact outputs_ofOutputs b
  · intro block
    exact ⟨funext (inputsOver_eq block), funext (weightsOver_eq block)⟩
  · intro block
    exact funext (outputsOver_eq block)

end Wire

end Systolic
