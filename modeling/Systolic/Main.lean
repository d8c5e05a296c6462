import Systolic.Command.Line

/-- The command: arguments and variables in, lines and a complaint out. It has a clock of its own for its
waits and takes no times. -/
def main (args : List String) : IO UInt32 := do
  let keys := [Systolic.Settings.profileKey, Systolic.Settings.budgetKey,
    Systolic.Settings.deadlineKey, Systolic.Settings.settleKey]
  let given ← keys.mapM fun key => return (key, ← IO.getEnv key)
  let pace : Systolic.Command.Pace := ⟨.steady 49999, 0, 0⟩
  let ending := Systolic.Command.run Systolic.Command.Line.shell pace args fun key => (given.lookup key).join
  for line in ending.lines do
    IO.println line
  IO.eprint ending.complaint
  return ending.exit.toUInt32
