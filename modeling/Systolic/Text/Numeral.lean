namespace Systolic.Text

/-- Why a text is not a number. -/
inductive NumeralFault where
  | empty
  | badDigit
  | tooLarge
deriving DecidableEq

def NumeralFault.message : NumeralFault → String
  | empty => "cannot parse integer from empty string"
  | badDigit => "invalid digit found in string"
  | tooLarge => "number too large to fit in target type"

/-- Reads on from `n`. A character that is no digit is found before the number it would have made is
found too large, but not before a number already too large. -/
def readDigits (n : Nat) : List Char → Except NumeralFault Nat
  | [] => .ok n
  | c :: rest =>
    if '0' ≤ c ∧ c ≤ '9' then
      let m := 10 * n + (c.toNat - '0'.toNat)
      if m < UInt64.size then readDigits m rest else .error .tooLarge
    else .error .badDigit

/-- A number of 64 bits: decimal digits, at least one, with or without a plus sign before them. -/
def readNumeral (s : String) : Except NumeralFault Nat :=
  match s.toList with
  | [] => .error .empty
  | ['+'] => .error .badDigit
  | '+' :: digits => readDigits 0 digits
  | digits => readDigits 0 digits

end Systolic.Text
