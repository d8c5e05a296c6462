import Mathlib.Data.Nat.Digits.Lemmas
import Systolic.Text.Numeral

namespace Systolic.Text

def IsDigit (c : Char) : Prop := '0' ≤ c ∧ c ≤ '9'

instance (c : Char) : Decidable (IsDigit c) := inferInstanceAs (Decidable (_ ∧ _))

/-- What digits in a row stand for, in base ten. -/
def decimal (digits : List Char) : Nat := Nat.ofDigits 10 (digits.map fun c => c.toNat - '0'.toNat).reverse

/-- The ways to write a number: decimal digits, at least one, with or without a plus sign before them. -/
inductive Numeral : List Char → Nat → Prop
  | plain {digits : List Char} (some : digits ≠ []) (all : ∀ c ∈ digits, IsDigit c) : Numeral digits (decimal digits)
  | signed {digits : List Char} (some : digits ≠ []) (all : ∀ c ∈ digits, IsDigit c) :
      Numeral ('+' :: digits) (decimal digits)

theorem decimal_cons (c : Char) (digits : List Char) :
    decimal (c :: digits) = 10 ^ digits.length * (c.toNat - '0'.toNat) + decimal digits := by
  rw [decimal, List.map_cons, List.reverse_cons, Nat.ofDigits_append, Nat.ofDigits_singleton, List.length_reverse,
    List.length_map, Nat.add_comm]
  rfl

theorem decimal_eq_ofDigitChars (digits : List Char) : decimal digits = Nat.ofDigitChars 10 digits 0 := by
  have step : ∀ n, Nat.ofDigitChars 10 digits n = 10 ^ digits.length * n + decimal digits := by
    induction digits with
    | nil => simp [decimal]
    | cons c rest ih =>
      intro n
      rw [Nat.ofDigitChars_cons, ih, decimal_cons, List.length_cons, Nat.pow_succ]
      ring
  rw [step, Nat.mul_zero, Nat.zero_add]

/-- A number that has been read so far is followed by digits just as long as the whole fits in 64 bits: what comes
first is never more than the whole. -/
theorem readDigits_ok {n m : Nat} (digits : List Char) (fits : n < UInt64.size) :
    readDigits n digits = .ok m ↔
      (∀ c ∈ digits, IsDigit c) ∧ m = 10 ^ digits.length * n + decimal digits ∧ m < UInt64.size := by
  induction digits generalizing n with
  | nil =>
    have empty : decimal [] = 0 := rfl
    simp only [readDigits, empty, List.not_mem_nil, List.length_nil]
    grind
  | cons c rest ih =>
    have whole : 10 ^ (c :: rest).length * n + decimal (c :: rest) =
        10 ^ rest.length * (10 * n + (c.toNat - '0'.toNat)) + decimal rest := by
      rw [decimal_cons, List.length_cons, Nat.pow_succ]
      ring
    rw [readDigits, List.forall_mem_cons, whole]
    by_cases here : '0' ≤ c ∧ c ≤ '9'
    · rw [if_pos here]
      by_cases room : 10 * n + (c.toNat - '0'.toNat) < UInt64.size
      · have isDigit : IsDigit c := here
        rw [if_pos room, ih room, and_iff_right isDigit]
      · have more : 10 * n + (c.toNat - '0'.toNat) ≤ 10 ^ rest.length * (10 * n + (c.toNat - '0'.toNat)) :=
          Nat.le_mul_of_pos_left _ (by positivity)
        rw [if_neg room]
        constructor
        · intro fails
          nomatch fails
        · rintro ⟨-, rfl, small⟩
          omega
    · rw [if_neg here]
      constructor
      · intro fails
        nomatch fails
      · rintro ⟨⟨digit, -⟩, -⟩
        exact absurd digit here

theorem readDigits_zero {n : Nat} {digits : List Char} : readDigits 0 digits = .ok n ↔
    (∀ c ∈ digits, IsDigit c) ∧ n = decimal digits ∧ n < 2 ^ 64 := by
  rw [readDigits_ok digits (by decide), Nat.mul_zero, Nat.zero_add]
  rfl

/-- A text is read as a number of 64 bits just when it is a way to write one. -/
theorem readNumeral_ok {s : String} {n : Nat} : readNumeral s = .ok n ↔ Numeral s.toList n ∧ n < 2 ^ 64 := by
  have sign : ¬ IsDigit '+' := by decide
  unfold readNumeral
  split
  case h_1 empty =>
    rw [empty]
    constructor
    · intro fails
      nomatch fails
    · rintro ⟨⟨some, -⟩, -⟩
      exact absurd rfl some
  case h_2 lone =>
    rw [lone]
    constructor
    · intro fails
      nomatch fails
    · rintro ⟨⟨-, all⟩ | ⟨some, -⟩, -⟩
      · exact absurd (all '+' (.head _)) sign
      · exact absurd rfl some
  case h_3 digits more signed =>
    rw [signed, readDigits_zero]
    constructor
    · rintro ⟨all, rfl, small⟩
      exact ⟨.signed more all, small⟩
    · rintro ⟨⟨-, all⟩ | ⟨-, all⟩, small⟩
      · exact absurd (all '+' (.head _)) sign
      · exact ⟨all, rfl, small⟩
  case h_4 some _ unsigned =>
    rw [readDigits_zero]
    constructor
    · rintro ⟨all, rfl, small⟩
      exact ⟨.plain some all, small⟩
    · rintro ⟨numeral, small⟩
      generalize s.toList = text at numeral unsigned
      cases numeral with
      | plain _ all => exact ⟨all, rfl, small⟩
      | signed => exact (unsigned _ rfl).elim

/-- A number as it is printed is a way to write it. -/
theorem numeral_repr (n : Nat) : Numeral n.repr.toList n := by
  have value : decimal n.repr.toList = n := by
    rw [decimal_eq_ofDigitChars, Nat.toList_repr]
    exact Nat.ofDigitChars_toDigits (by decide) (by decide)
  have all : ∀ c ∈ n.repr.toList, IsDigit c := by
    intro c among
    rw [Nat.toList_repr] at among
    have digit := Nat.isDigit_of_mem_toDigits (by decide) (by decide) among
    simpa [Char.isDigit, IsDigit, Char.le_def] using digit
  have some : n.repr.toList ≠ [] := by
    rw [Nat.toList_repr]
    exact Nat.toDigits_ne_nil
  have numeral := Numeral.plain some all
  rwa [value] at numeral

end Systolic.Text
