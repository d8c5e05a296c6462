namespace Systolic.Hex

/-- The digits of `n` in base sixteen, lower case, with as few of them as it takes but at least one. -/
def digits (n : Nat) : List Char := Nat.toDigits 16 n

/-- The digits of `n` with zeros put before them up to `width`. -/
def padded (width n : Nat) : String := String.ofList ((digits n).leftpad width '0')

/-- A number as it is written in messages: `0x` and its digits. -/
def tagged (n : Nat) : String := "0x" ++ String.ofList (digits n)

/-- A word as it is written in reports: `0x` and eight digits. -/
def word (w : UInt32) : String := "0x" ++ padded 8 w.toNat

def digit? (c : Char) : Option Nat :=
  if '0' ≤ c ∧ c ≤ '9' then some (c.toNat - '0'.toNat)
  else if 'a' ≤ c ∧ c ≤ 'f' then some (c.toNat - 'a'.toNat + 10)
  else none

def ofBytes (bs : List UInt8) : String :=
  String.ofList (bs.flatMap fun b => (digits b.toNat).leftpad 2 '0')

/-- Reads pairs of digits; `none` for a stray character or an odd number of digits. -/
def toBytes? : List Char → Option (List UInt8)
  | [] => some []
  | [_] => none
  | h :: l :: rest => do
    let high ← digit? h
    let low ← digit? l
    let bs ← toBytes? rest
    return UInt8.ofNat (16 * high + low) :: bs

end Systolic.Hex
