import Systolic.Program

namespace Systolic

/-- A register access, and the value it moved. -/
inductive Access where
  | read (offset : Nat) (value : UInt32)
  | write (offset : Nat) (value : UInt32)
deriving DecidableEq

/-- The accesses of a run, the latest first, each with the number of times it was made in a row. -/
structure Journal where
  runs : List (Access × Nat)
deriving DecidableEq

namespace Journal

def empty : Journal := ⟨[]⟩

def record (j : Journal) (a : Access) : Journal :=
  match j.runs with
  | (last, times) :: rest => if last = a then ⟨(last, times + 1) :: rest⟩ else ⟨(a, 1) :: j.runs⟩
  | [] => ⟨[(a, 1)]⟩

/-- The accesses one by one, in the order in which they were made. -/
def toList (j : Journal) : List Access :=
  j.runs.reverse.flatMap fun run => List.replicate run.2 run.1

@[simp] theorem toList_empty : empty.toList = [] := rfl

@[simp] theorem toList_record (j : Journal) (a : Access) :
    (j.record a).toList = j.toList ++ [a] := by
  obtain ⟨runs⟩ := j
  cases runs with
  | nil => rfl
  | cons run rest =>
    obtain ⟨last, times⟩ := run
    by_cases same : last = a
    · simp [record, same, toList, List.replicate_succ']
    · simp [record, same, toList]

end Journal

/-- How the clock runs during each wait, which is told from the others by the accesses before it. -/
abbrev Timing := Journal → Clock

/-- Every wait takes the same time. -/
def Timing.steady (rest : Nat) : Timing := fun _ => .steady rest

/-- Something that a program can be run on: registers, which may refuse an access that is none of
theirs, shared memory, and the time that waits on it take. -/
structure Board (σ : Type) where
  read : σ → Nat → Option (UInt32 × σ)
  write : σ → Nat → UInt32 → Option σ
  memory : σ → Memory
  withMemory : σ → Memory → σ
  timing : Timing

/-- How a run ended. There is no result if the board refused an access, which ends the run, or if the
program halted. -/
structure Run (σ α : Type) where
  result : Option α
  state : σ
  journal : Journal

/-- Runs a program to its end, keeping a journal of its register accesses. -/
def Program.runOn {σ α : Type} (b : Board σ) : Program α → σ → Journal → Run σ α
  | done a, s, j => ⟨some a, s, j⟩
  | read offset next, s, j =>
    match b.read s offset with
    | none => ⟨none, s, j⟩
    | some (value, s') => (next value).runOn b s' (j.record (.read offset value))
  | write offset value next, s, j =>
    match b.write s offset value with
    | none => ⟨none, s, j⟩
    | some s' => next.runOn b s' (j.record (.write offset value))
  | load offset len next, s, j => (next ((b.memory s).load offset len)).runOn b s j
  | store offset bytes next, s, j =>
    next.runOn b (b.withMemory s ((b.memory s).store offset bytes)) j
  | clear offset len next, s, j =>
    next.runOn b (b.withMemory s ((b.memory s).clear offset len)) j
  | time next, s, j => (next (b.timing j)).runOn b s j
  | halt, s, j => ⟨none, s, j⟩

/-- A program with another after it is the first one, and the other from where that ended. -/
theorem Program.runOn_bind {σ α β : Type} (b : Board σ) (p : Program α) (f : α → Program β) (s : σ)
    (j : Journal) :
    (p.bind f).runOn b s j =
      match p.runOn b s j with
      | ⟨some a, s', j'⟩ => (f a).runOn b s' j'
      | ⟨none, s', j'⟩ => ⟨none, s', j'⟩ := by
  induction p generalizing s j with
  | done a => rfl
  | read offset next ih => cases h : b.read s offset <;> simp [bind, runOn, h, ih]
  | write offset value next ih => cases h : b.write s offset value <;> simp [bind, runOn, h, ih]
  | load offset len next ih => simp [bind, runOn, ih]
  | store offset bytes next ih => simp [bind, runOn, ih]
  | clear offset len next ih => simp [bind, runOn, ih]
  | time next ih => simp [bind, runOn, ih]
  | halt => rfl

end Systolic
