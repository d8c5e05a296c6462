import Systolic.Proofs.Comparing

namespace Systolic

/-- A mismatch comes before another one in the order in which results are gone over. -/
def Mismatch.Before (m n : Mismatch) : Prop :=
  m.batch < n.batch ∨ m.batch = n.batch ∧ (m.row < n.row ∨ m.row = n.row ∧ m.col < n.col)

/-- A mismatch at an element that both the results and the reference have. -/
structure Mismatch.Of (es hs : List Output) (m : Mismatch) : Prop where
  expected : (es[m.batch]?).map (·.get m.row m.col) = some m.expected
  hardware : (hs[m.batch]?).map (·.get m.row m.col) = some m.hardware
  differ : m.hardware ≠ m.expected

/-- Of the matrices that are there, the first that is not what it should be is the one at `i`. -/
structure FirstWrong (es hs : List Output) (i : Nat) (e h : Output) : Prop where
  expected : es[i]? = some e
  hardware : hs[i]? = some h
  differ : h ≠ e
  earlier : ∀ k < i, hs[k]? = es[k]?

namespace FirstWrong

variable {e h expected hardware : Output} {es hs : List Output} {i : Nat}

theorem zero : FirstWrong (e :: es) (h :: hs) 0 expected hardware ↔
    h ≠ e ∧ e = expected ∧ h = hardware := by
  constructor
  · intro ⟨right, got, differ, _⟩
    cases right
    cases got
    exact ⟨differ, rfl, rfl⟩
  · rintro ⟨differ, rfl, rfl⟩
    exact ⟨rfl, rfl, differ, fun k before => absurd before (Nat.not_lt_zero k)⟩

theorem succ : FirstWrong (e :: es) (h :: hs) (i + 1) expected hardware ↔
    h = e ∧ FirstWrong es hs i expected hardware := by
  constructor
  · intro ⟨right, got, differ, earlier⟩
    have same : h = e := by simpa using earlier 0 (Nat.succ_pos i)
    exact ⟨same, right, got, differ, fun k before => earlier (k + 1) (Nat.succ_lt_succ before)⟩
  · intro ⟨same, right, got, differ, earlier⟩
    refine ⟨right, got, differ, ?_⟩
    intro k before
    cases k with
    | zero => exact congrArg some same
    | succ k => exact earlier k (Nat.lt_of_succ_lt_succ before)

end FirstWrong

namespace Comparison

variable {batch : Nat} {e h : Output} {es hs : List Output}

def mismatchAt (batch : Nat) (e h : Output) (place : Fin 8 × Fin 8) : Mismatch :=
  ⟨batch, place.1, place.2, h.get place.1 place.2, e.get place.1 place.2⟩

/-- Every mismatch of a matrix, however many there are. -/
def mismatchesIn (batch : Nat) (e h : Output) : List Mismatch := (differing e h).map (mismatchAt batch e h)

/-- Every mismatch of the results from a batch on. -/
def mismatchesFrom (batch : Nat) : List Output → List Output → List Mismatch
  | [], _ => []
  | _ :: _, [] => []
  | e :: es, h :: hs => mismatchesIn batch e h ++ mismatchesFrom (batch + 1) es hs

/-- The first wrong matrix of the results from a batch on. -/
def firstWrong (batch : Nat) : List Output → List Output → Option Dump
  | [], _ => none
  | _ :: _, [] => none
  | e :: es, h :: hs => if h = e then firstWrong (batch + 1) es hs else some ⟨batch, e, h⟩

theorem mem_differing {place : Fin 8 × Fin 8} :
    place ∈ differing e h ↔ h.get place.1 place.2 ≠ e.get place.1 place.2 := by
  simp [differing, mem_places]

/-- The list that is kept is the beginning of the list of all mismatches, and so it stays as they come in. -/
theorem take_maxMismatches_append (all : List Mismatch) (m : Mismatch) :
    (if (all.take maxMismatches).length < maxMismatches then all.take maxMismatches ++ [m]
      else all.take maxMismatches) = (all ++ [m]).take maxMismatches := by
  rw [List.length_take, List.take_append]
  by_cases room : all.length < maxMismatches
  · have one : 1 ≤ maxMismatches - all.length := by omega
    rw [if_pos (by omega), List.take_of_length_le (l := [m]) one]
  · have none : maxMismatches - all.length = 0 := by omega
    rw [if_neg (by omega), none, List.take_zero, List.append_nil]

/-- Of the mismatches at the places gone over so far the first ones are kept. -/
theorem mismatches_checkElements (visited : List (Fin 8 × Fin 8)) {found : Comparison} {all : List Mismatch}
    (kept : found.mismatches = all.take maxMismatches) :
    (visited.foldl (checkElement batch e h) found).mismatches =
      (all ++ (visited.filter fun place => h.get place.1 place.2 ≠ e.get place.1 place.2).map
        (mismatchAt batch e h)).take maxMismatches := by
  induction visited generalizing found all with
  | nil => simpa using kept
  | cons place rest ih =>
    rw [List.foldl_cons]
    by_cases right : h.get place.1 place.2 = e.get place.1 place.2
    · rw [List.filter_cons_of_neg (by simp [right])]
      exact ih (by simpa only [checkElement, if_pos right] using kept)
    · have next : (checkElement batch e h found place).mismatches =
          (all ++ [mismatchAt batch e h place]).take maxMismatches := by
        simp only [checkElement, if_neg right, kept]
        exact take_maxMismatches_append all _
      rw [List.filter_cons_of_pos (by simp [right]), List.map_cons, ih next, List.append_assoc]
      rfl

theorem firstFailure_checkElements (visited : List (Fin 8 × Fin 8)) (found : Comparison) :
    (visited.foldl (checkElement batch e h) found).firstFailure =
      (found.firstFailure <|> if (visited.filter fun place => h.get place.1 place.2 ≠ e.get place.1 place.2) = []
        then none else some ⟨batch, e, h⟩) := by
  induction visited generalizing found with
  | nil => simp
  | cons place rest ih =>
    rw [List.foldl_cons, ih]
    by_cases right : h.get place.1 place.2 = e.get place.1 place.2
    · rw [List.filter_cons_of_neg (by simp [right])]
      simp only [checkElement, if_pos right]
    · rw [List.filter_cons_of_pos (by simp [right])]
      simp only [checkElement, if_neg right, List.cons_ne_nil, if_false]
      cases found.firstFailure with
      | some earlier => rfl
      | none => rfl

theorem firstFailure_checkMatrix (batch : Nat) (e h : Output) (found : Comparison) :
    (checkMatrix batch e h found).firstFailure =
      (found.firstFailure <|> if h = e then none else some ⟨batch, e, h⟩) := by
  rw [checkMatrix, firstFailure_checkElements, ← differing]
  simp only [differing_nil]

theorem mismatches_checkFrom (es hs : List Output) (batch : Nat) (found : Comparison) (all : List Mismatch)
    (kept : found.mismatches = all.take maxMismatches) :
    (checkFrom batch found es hs).mismatches = (all ++ mismatchesFrom batch es hs).take maxMismatches := by
  induction es generalizing hs batch found all with
  | nil => simpa [mismatchesFrom, checkFrom] using kept
  | cons e es ih =>
    cases hs with
    | nil =>
      have rest := ih [] (batch + 1) found.checkMissing all kept
      cases es with
      | nil => exact rest
      | cons _ _ => exact rest
    | cons h hs =>
      rw [mismatchesFrom, ← List.append_assoc]
      exact ih hs (batch + 1) _ _ (mismatches_checkElements places kept)

theorem firstFailure_checkFrom (es hs : List Output) (batch : Nat) (found : Comparison) :
    (checkFrom batch found es hs).firstFailure = (found.firstFailure <|> firstWrong batch es hs) := by
  induction es generalizing hs batch found with
  | nil => simp [checkFrom, firstWrong]
  | cons e es ih =>
    cases hs with
    | nil =>
      have none : firstWrong (batch + 1) es [] = firstWrong batch (e :: es) [] := by
        cases es with
        | nil => rfl
        | cons _ _ => rfl
      rw [checkFrom, ih, none]
      rfl
    | cons h hs =>
      rw [checkFrom, ih, firstFailure_checkMatrix, firstWrong]
      by_cases same : h = e
      · simp [same]
      · cases found.firstFailure with
        | some earlier => simp
        | none => simp [same]

theorem mismatches_compare (es hs : List Output) :
    (compare es hs).mismatches = (mismatchesFrom 0 es hs).take maxMismatches :=
  mismatches_checkFrom es hs 0 empty [] rfl

theorem firstFailure_compare (es hs : List Output) : (compare es hs).firstFailure = firstWrong 0 es hs :=
  firstFailure_checkFrom es hs 0 empty

theorem length_mismatchesFrom (es hs : List Output) (batch : Nat) :
    (mismatchesFrom batch es hs).length = (List.zipWith (fun e h => (differing e h).length) es hs).sum := by
  induction es generalizing hs batch with
  | nil => rfl
  | cons e es ih =>
    cases hs with
    | nil => rfl
    | cons h hs =>
      rw [mismatchesFrom, List.length_append, mismatchesIn, List.length_map, ih, List.zipWith_cons_cons, List.sum_cons]

theorem mem_mismatchesIn {m : Mismatch} : m ∈ mismatchesIn batch e h ↔
    m.batch = batch ∧ e.get m.row m.col = m.expected ∧ h.get m.row m.col = m.hardware ∧ m.hardware ≠ m.expected := by
  constructor
  · intro among
    obtain ⟨place, wrong, rfl⟩ := List.mem_map.mp among
    exact ⟨rfl, rfl, rfl, mem_differing.mp wrong⟩
  · intro ⟨here, right, got, differ⟩
    have shown : mismatchAt batch e h (m.row, m.col) = m := by
      rw [mismatchAt, right, got, ← here]
    have wrong : (m.row, m.col) ∈ differing e h := by
      rw [mem_differing, right, got]
      exact differ
    exact List.mem_map.mpr ⟨_, wrong, shown⟩

theorem mem_mismatchesFrom {m : Mismatch} : m ∈ mismatchesFrom batch es hs ↔
    ∃ i e h, es[i]? = some e ∧ hs[i]? = some h ∧ m ∈ mismatchesIn (batch + i) e h := by
  induction es generalizing hs batch with
  | nil => simp [mismatchesFrom]
  | cons e es ih =>
    cases hs with
    | nil => simp [mismatchesFrom]
    | cons h hs =>
      rw [mismatchesFrom, List.mem_append, ih]
      constructor
      · rintro (here | ⟨i, e', h', right, got, among⟩)
        · exact ⟨0, e, h, rfl, rfl, here⟩
        · rw [Nat.add_assoc, Nat.add_comm 1] at among
          exact ⟨i + 1, e', h', right, got, among⟩
      · intro ⟨i, e', h', right, got, among⟩
        cases i with
        | zero =>
          cases right
          cases got
          exact .inl among
        | succ i =>
          rw [Nat.add_comm i, ← Nat.add_assoc] at among
          exact .inr ⟨i, e', h', right, got, among⟩

/-- The list of all mismatches has every element that is wrong, and no other. -/
theorem mem_mismatches {m : Mismatch} : m ∈ mismatchesFrom 0 es hs ↔ m.Of es hs := by
  rw [mem_mismatchesFrom]
  constructor
  · intro ⟨i, e, h, right, got, among⟩
    rw [Nat.zero_add] at among
    obtain ⟨rfl, expected, hardware, differ⟩ := mem_mismatchesIn.mp among
    exact ⟨by rw [right, Option.map_some, expected], by rw [got, Option.map_some, hardware], differ⟩
  · intro ⟨expected, hardware, differ⟩
    obtain ⟨e, right, expected⟩ := Option.map_eq_some_iff.mp expected
    obtain ⟨h, got, hardware⟩ := Option.map_eq_some_iff.mp hardware
    exact ⟨m.batch, e, h, right, got, mem_mismatchesIn.mpr ⟨by rw [Nat.zero_add], expected, hardware, differ⟩⟩

theorem places_in_order :
    places.Pairwise fun p q => p.1 < q.1 ∨ p.1 = q.1 ∧ p.2 < q.2 := by decide

theorem mismatchesIn_in_order (batch : Nat) (e h : Output) : (mismatchesIn batch e h).Pairwise Mismatch.Before := by
  rw [mismatchesIn, List.pairwise_map]
  exact (places_in_order.filter _).imp fun before => .inr ⟨rfl, before⟩

theorem mismatchesFrom_in_order (es hs : List Output) (batch : Nat) :
    (mismatchesFrom batch es hs).Pairwise Mismatch.Before := by
  induction es generalizing hs batch with
  | nil => exact .nil
  | cons e es ih =>
    cases hs with
    | nil => exact .nil
    | cons h hs =>
      refine List.pairwise_append.mpr ⟨mismatchesIn_in_order batch e h, ih hs (batch + 1), ?_⟩
      intro m here n later
      obtain ⟨i, _, _, _, _, among⟩ := mem_mismatchesFrom.mp later
      have first := (mem_mismatchesIn.mp here).1
      have second := (mem_mismatchesIn.mp among).1
      exact .inl (by omega)

theorem firstWrong_some {d : Dump} : firstWrong batch es hs = some d ↔
    ∃ i, d.batch = batch + i ∧ FirstWrong es hs i d.expected d.hardware := by
  induction es generalizing hs batch with
  | nil =>
    constructor
    · intro found
      cases found
    · intro ⟨i, _, wrong⟩
      simpa using wrong.expected
  | cons e es ih =>
    cases hs with
    | nil =>
      constructor
      · intro found
        cases found
      · intro ⟨i, _, wrong⟩
        simpa using wrong.hardware
    | cons h hs =>
      rw [firstWrong]
      by_cases same : h = e
      · rw [if_pos same, ih]
        constructor
        · intro ⟨i, there, wrong⟩
          exact ⟨i + 1, by omega, FirstWrong.succ.mpr ⟨same, wrong⟩⟩
        · intro ⟨i, there, wrong⟩
          cases i with
          | zero => exact absurd same (FirstWrong.zero.mp wrong).1
          | succ i => exact ⟨i, by omega, (FirstWrong.succ.mp wrong).2⟩
      · rw [if_neg same]
        constructor
        · intro found
          cases found
          exact ⟨0, rfl, FirstWrong.zero.mpr ⟨same, rfl, rfl⟩⟩
        · intro ⟨i, there, wrong⟩
          cases i with
          | zero =>
            obtain ⟨_, expected, hardware⟩ := FirstWrong.zero.mp wrong
            rw [expected, hardware, ← Nat.add_zero batch, ← there]
          | succ i => exact absurd (FirstWrong.succ.mp wrong).1 same

theorem firstWrong_none (es hs : List Output) (batch : Nat) :
    firstWrong batch es hs = none ↔ mismatchesFrom batch es hs = [] := by
  induction es generalizing hs batch with
  | nil => simp [firstWrong, mismatchesFrom]
  | cons e es ih =>
    cases hs with
    | nil => simp [firstWrong, mismatchesFrom]
    | cons h hs =>
      rw [firstWrong, mismatchesFrom, List.append_eq_nil_iff, mismatchesIn, List.map_eq_nil_iff, differing_nil, ← ih]
      by_cases same : h = e
      · simp [same]
      · simp [same]

/-- A comparison of any results with any reference counts every element that is wrong or missing, keeps the first
five of those that are wrong as a reader would meet them, and dumps the first matrix that has one. The list of all
that are wrong is settled by what is in it, as it is in order. -/
theorem compare_exact (es hs : List Output) :
    ∃ all : List Mismatch, (∀ m, m ∈ all ↔ m.Of es hs) ∧ all.Pairwise Mismatch.Before ∧
      (compare es hs).checked = 64 * es.length ∧
      (compare es hs).mismatchCount = all.length + 64 * (es.length - hs.length) ∧
      (compare es hs).mismatches = all.take 5 ∧
      (∀ d, (compare es hs).firstFailure = some d ↔ FirstWrong es hs d.batch d.expected d.hardware) ∧
      ((compare es hs).firstFailure.isSome ↔ (compare es hs).mismatches ≠ []) ∧
      ((compare es hs).isPass = true ↔ es.length ≤ hs.length ∧ hs.take es.length = es) := by
  refine ⟨mismatchesFrom 0 es hs, fun _ => mem_mismatches, mismatchesFrom_in_order es hs 0, checked_compare es hs,
    ?counted, mismatches_compare es hs, ?dumped, ?shown, ?passed⟩
  case counted => rw [mismatchCount_compare, wrong, length_mismatchesFrom]
  case dumped =>
    intro d
    rw [firstFailure_compare, firstWrong_some]
    simp only [Nat.zero_add]
    constructor
    · rintro ⟨_, there, wrong⟩
      exact there ▸ wrong
    · intro wrong
      exact ⟨d.batch, rfl, wrong⟩
  case shown =>
    have kept : (compare es hs).mismatches = [] ↔ mismatchesFrom 0 es hs = [] := by
      rw [mismatches_compare, List.take_eq_nil_iff]
      exact or_iff_right (Nat.succ_ne_zero 4)
    rw [firstFailure_compare, Option.isSome_iff_ne_none, Ne, Ne, kept, firstWrong_none]
  case passed =>
    rw [isPass_compare, List.prefix_iff_eq_take]
    constructor
    · intro start
      have long := congrArg List.length start
      rw [List.length_take] at long
      exact ⟨by omega, start.symm⟩
    · rintro ⟨-, start⟩
      exact start.symm

end Comparison

end Systolic
