import Systolic.Board

namespace Systolic

/-- A board that answers reads from prepared lists and takes no notice of writes. Its memory is plain. -/
structure Script where
  answers : List (Nat × List UInt32)
  memory : Memory

namespace Script

def empty (size : Nat) : Script := ⟨[], .zeroed size⟩

/-- Prepares the answers of one register, in place of any that it had. -/
def preset (s : Script) (offset : Nat) (values : List UInt32) : Script :=
  { s with answers := (offset, values) :: s.answers.filter fun entry => entry.1 != offset }

/-- The next answer. The last one of a list is given for ever; a register without any reads zero. -/
def answer (s : Script) (offset : Nat) : UInt32 × Script :=
  match s.answers.lookup offset with
  | some (value :: next :: rest) => (value, s.preset offset (next :: rest))
  | some [value] => (value, s)
  | _ => (0, s)

def board (timing : Timing) : Board Script where
  read s offset := some (s.answer offset)
  write s _ _ := some s
  memory := memory
  withMemory s memory := { s with memory }
  timing := timing

end Script

end Systolic
