import Systolic.Matrix
import Systolic.Text.Hex

namespace Systolic

/-- An element that is not what it should be. -/
structure Mismatch where
  batch : Nat
  row : Fin 8
  col : Fin 8
  hardware : Int32
  expected : Int32
deriving DecidableEq

def Mismatch.message (m : Mismatch) : String :=
  let hardware := Hex.word m.hardware.toUInt32
  let expected := Hex.word m.expected.toUInt32
  s!"batch {m.batch} [{m.row.val}, {m.col.val}]: hw={hardware} expected={expected}"

/-- A matrix that is not what it should be, beside what it should be. -/
structure Dump where
  batch : Nat
  expected : Output
  hardware : Output
deriving DecidableEq

namespace Dump

def rowDigits (row : Vector Int32 8) : String :=
  " ".intercalate (row.toList.map fun e => Hex.padded 8 e.toUInt32.toNat)

/-- The lines of the dump: two titles, then every row on both sides with a star between those that
differ. -/
def lines (d : Dump) : List String :=
  let titles := "expected".pushn ' ' 63 ++ "   hardware"
  let rows := (d.expected.rows.zip d.hardware.rows).toList.map fun (expected, hardware) =>
    let mark := if expected = hardware then " " else "*"
    s!"{rowDigits expected} {mark} {rowDigits hardware}"
  s!"first mismatch in batch {d.batch}" :: titles :: rows

end Dump

/-- What a comparison of results with a reference found. Of the elements that differ only the first
few are kept, and of the matrices only the first. -/
structure Comparison where
  checked : Nat
  mismatchCount : Nat
  mismatches : List Mismatch
  firstFailure : Option Dump
deriving DecidableEq

namespace Comparison

def maxMismatches : Nat := 5

def empty : Comparison := ⟨0, 0, [], none⟩

/-- The places of a matrix in reading order. -/
def places : List (Fin 8 × Fin 8) :=
  (List.finRange 8).flatMap fun r => (List.finRange 8).map fun c => (r, c)

def checkElement (batch : Nat) (expected hardware : Output) (found : Comparison)
    (place : Fin 8 × Fin 8) : Comparison :=
  let (row, col) := place
  let e := expected.get row col
  let h := hardware.get row col
  if h = e then { found with checked := found.checked + 1 }
  else
    { checked := found.checked + 1
      mismatchCount := found.mismatchCount + 1
      mismatches :=
        if found.mismatches.length < maxMismatches then
          found.mismatches ++ [⟨batch, row, col, h, e⟩]
        else found.mismatches
      firstFailure := found.firstFailure <|> some ⟨batch, expected, hardware⟩ }

def checkMatrix (batch : Nat) (expected hardware : Output) (found : Comparison) : Comparison :=
  places.foldl (checkElement batch expected hardware) found

/-- A result that is missing counts as wrong in every element. -/
def checkMissing (found : Comparison) : Comparison :=
  { found with checked := found.checked + 64, mismatchCount := found.mismatchCount + 64 }

def checkFrom (batch : Nat) (found : Comparison) : List Output → List Output → Comparison
  | [], _ => found
  | _ :: expected, [] => checkFrom (batch + 1) found.checkMissing expected []
  | e :: expected, h :: hardware =>
    checkFrom (batch + 1) (checkMatrix batch e h found) expected hardware

/-- Compares results with what they should be, matrix by matrix. -/
def compare (expected hardware : List Output) : Comparison :=
  checkFrom 0 empty expected hardware

def isPass (c : Comparison) : Bool := c.mismatchCount == 0

end Comparison

end Systolic
