namespace Systolic.Text

/-- The digits after a point: `fraction` in `places` digits, without the zeros that they end in. -/
def fractionDigits (places fraction : Nat) : List Char :=
  let digits := (toString fraction).toList.leftpad places '0'
  (digits.reverse.dropWhile (· == '0')).reverse

def withFraction (places whole fraction : Nat) : String :=
  match fractionDigits places fraction with
  | [] => toString whole
  | digits => toString whole ++ "." ++ String.ofList digits

/-- A time in nanoseconds, in the largest unit that it has one of. -/
def duration (nanos : Nat) : String :=
  if 1000000000 ≤ nanos then withFraction 9 (nanos / 1000000000) (nanos % 1000000000) ++ "s"
  else if 1000000 ≤ nanos then withFraction 6 (nanos / 1000000) (nanos % 1000000) ++ "ms"
  else if 1000 ≤ nanos then withFraction 3 (nanos / 1000) (nanos % 1000) ++ "µs"
  else toString nanos ++ "ns"

/-- The whole number next to a quotient, and the even one of two that are as near. -/
def nearest (dividend divisor : Nat) : Nat :=
  let quotient := dividend / divisor
  let twice := 2 * (dividend % divisor)
  if divisor < twice ∨ (twice = divisor ∧ quotient % 2 = 1) then quotient + 1 else quotient

/-- The hundredths in a finite number that is not negative, taken from its exact value. -/
def hundredths (x : Float) : Nat :=
  let bits := x.toBits.toNat
  let exponent := bits >>> 52 % 2048
  let fraction := bits % (1 <<< 52)
  let mantissa := if exponent = 0 then fraction else 1 <<< 52 + fraction
  let shift := max exponent 1
  if 1075 ≤ shift then 100 * (mantissa <<< (shift - 1075))
  else nearest (100 * mantissa) (1 <<< (1075 - shift))

/-- A finite number that is not negative, with two digits after its point. -/
def twoPlaces (x : Float) : String :=
  let n := hundredths x
  toString (n / 100) ++ "." ++ String.ofList ((toString (n % 100)).toList.leftpad 2 '0')

end Systolic.Text
