import Systolic.Board
import Systolic.Proofs.Deadlines
import Systolic.Sequencer

namespace Systolic

/-- A register write: the offset and the value put there. -/
abbrev Write := Nat × UInt32

def Access.write? : Access → Option Write
  | read .. => none
  | write offset value => some (offset, value)

/-- The writes of a run, in the order in which they were made. -/
def Journal.writes (j : Journal) : List Write := j.toList.filterMap Access.write?

@[simp] theorem Journal.writes_empty : Journal.empty.writes = [] := rfl

@[simp] theorem Journal.writes_record_read (j : Journal) (offset : Nat) (value : UInt32) :
    (j.record (.read offset value)).writes = j.writes := by
  simp [writes, Access.write?]

@[simp] theorem Journal.writes_record_write (j : Journal) (offset : Nat) (value : UInt32) :
    (j.record (.write offset value)).writes = j.writes ++ [(offset, value)] := by
  simp [writes, Access.write?]

namespace Program

variable {σ α β γ : Type}

/-- Whatever its reads give and however time passes, the program makes exactly these writes and leaves
shared memory alone, and it ends, with a result that `post` holds of. -/
def Issues : Program α → List Write → (α → Prop) → Prop
  | done a, ws, post => ws = [] ∧ post a
  | read _ next, ws, post => ∀ value, (next value).Issues ws post
  | write offset value next, ws, post =>
    ∃ rest, ws = (offset, value) :: rest ∧ next.Issues rest post
  | load .., _, _ => False
  | store .., _, _ => False
  | clear .., _, _ => False
  | time next, ws, post => ∀ clock, (next clock).Issues ws post
  | halt, _, _ => False

theorem Issues.mono {p : Program α} {ws : List Write} {post weaker : α → Prop}
    (issues : p.Issues ws post) (imp : ∀ a, post a → weaker a) : p.Issues ws weaker := by
  induction p generalizing ws with
  | done a => exact ⟨issues.1, imp a issues.2⟩
  | read offset next ih => exact fun value => ih value (issues value)
  | write offset value next ih =>
    obtain ⟨rest, same, later⟩ := issues
    exact ⟨rest, same, ih later⟩
  | time next ih => exact fun clock => ih clock (issues clock)
  | load | store | clear | halt => exact issues.elim

theorem Issues.bind {p : Program α} {f : α → Program β} {ws more : List Write} {mid : α → Prop}
    {post : β → Prop} (first : p.Issues ws mid) (rest : ∀ a, mid a → (f a).Issues more post) :
    (p.bind f).Issues (ws ++ more) post := by
  induction p generalizing ws with
  | done a =>
    obtain ⟨rfl, holds⟩ := first
    exact rest a holds
  | read offset next ih => exact fun value => ih value (first value)
  | write offset value next ih =>
    obtain ⟨rest, rfl, later⟩ := first
    exact ⟨rest ++ more, rfl, ih later⟩
  | time next ih => exact fun clock => ih clock (first clock)
  | load | store | clear | halt => exact first.elim

theorem issues_writeRegister (offset : Nat) (value : UInt32) :
    (writeRegister offset value).Issues [(offset, value)] fun _ => True :=
  ⟨[], rfl, rfl, trivial⟩

/-- Polling reads and does nothing else, however often it reads and however it ends. -/
theorem issues_pollRegister (limit : PollLimit) (offset : Nat) (ready : UInt32 → Bool) :
    (pollRegister limit offset ready).Issues [] fun _ => True := by
  have step : ∀ budget asked,
      (pollFrom (ready <$> readRegister offset) asked budget).Issues [] fun _ => True := by
    intro budget
    induction budget with
    | zero => exact fun asked => ⟨rfl, trivial⟩
    | succ budget ih =>
      intro asked value
      show Issues (if ready value then done (PollOutcome.ready (asked + 1)) else _) [] _
      split
      · exact ⟨rfl, trivial⟩
      · exact ih (asked + 1)
  rw [pollRegister_eq]
  exact fun clock => step _ _

/-- On any board the writes that get made are the first ones of those to make. They are all of them,
and `post` holds, if the board lets the program come to its end. -/
theorem Issues.runOn {p : Program α} {ws : List Write} {post : α → Prop} (issues : p.Issues ws post)
    (b : Board σ) (s : σ) (j : Journal) :
    ∃ made, (p.runOn b s j).journal.writes = j.writes ++ made ∧ made <+: ws ∧
      ∀ a, (p.runOn b s j).result = some a → made = ws ∧ post a := by
  induction p generalizing ws s j with
  | done a =>
    obtain ⟨rfl, holds⟩ := issues
    refine ⟨[], by simp [Program.runOn], List.nil_prefix, ?_⟩
    intro result given
    obtain rfl : a = result := Option.some.inj given
    exact ⟨rfl, holds⟩
  | read offset next ih =>
    cases answer : b.read s offset with
    | none => exact ⟨[], by simp [Program.runOn, answer], List.nil_prefix, by simp [Program.runOn, answer]⟩
    | some pair =>
      obtain ⟨value, s'⟩ := pair
      simpa [Program.runOn, answer] using ih value (issues value) s' (j.record (.read offset value))
  | write offset value next ih =>
    obtain ⟨rest, rfl, later⟩ := issues
    cases taken : b.write s offset value with
    | none => exact ⟨[], by simp [Program.runOn, taken], List.nil_prefix, by simp [Program.runOn, taken]⟩
    | some s' =>
      obtain ⟨made, journal, start, result⟩ := ih later s' (j.record (.write offset value))
      refine ⟨(offset, value) :: made, ?_, ?_, ?_⟩
      · simpa [Program.runOn, taken] using journal
      · exact List.cons_prefix_cons.mpr ⟨rfl, start⟩
      · intro a ended
        obtain ⟨rfl, holds⟩ := result a (by simpa [Program.runOn, taken] using ended)
        exact ⟨rfl, holds⟩
  | time next ih => exact ih _ (issues _) s j
  | load | store | clear | halt => exact issues.elim

end Program

end Systolic
