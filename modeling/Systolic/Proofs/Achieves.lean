import Systolic.Proofs.Accesses
import Systolic.Proofs.Transcript

namespace Systolic

open Program

variable {σ α β : Type}

/-- Whether a board leaves shared memory alone but for what is put into it. -/
structure Board.KeepsMemory (b : Board σ) : Prop where
  read : ∀ {t t' offset value}, b.read t offset = some (value, t') → b.memory t' = b.memory t
  write : ∀ {t t' offset value}, b.write t offset value = some t' → b.memory t' = b.memory t
  put : ∀ t m, b.memory (b.withMemory t m) = m

/-- A program that only touches registers leaves shared memory to the board. -/
theorem Program.Issues.memory {p : Program α} {ws : List Write} {post : α → Prop} (issues : p.Issues ws post)
    {b : Board σ} (keeps : b.KeepsMemory) (t : σ) (j : Journal) : b.memory (p.runOn b t j).state = b.memory t := by
  induction p generalizing ws t j with
  | done a => rfl
  | read offset next ih =>
    rw [Program.runOn]
    cases answer : b.read t offset with
    | none => rfl
    | some pair => exact (ih pair.1 (issues pair.1) pair.2 _).trans (keeps.read answer)
  | write offset value next ih =>
    obtain ⟨rest, -, later⟩ := issues
    rw [Program.runOn]
    cases taken : b.write t offset value with
    | none => rfl
    | some t' => exact (ih later t' _).trans (keeps.write taken)
  | time next ih => exact ih _ (issues _) t j
  | load | store | clear | halt => exact issues.elim

namespace Sequencer

/-- From a sequencer and the state of a board a call does not fail, and `post` holds of what it gives and of what it
leaves the two as. -/
def Achieves (b : Board σ) (s : Sequencer) (t : σ) (x : SequencerM α) (post : α → Sequencer → σ → Prop) : Prop :=
  ∀ j, ∃ a s' t' j', (s.perform x).runOn b t j = ⟨some (.ok a, s'), t', j'⟩ ∧ post a s' t'

variable {b : Board σ} {s : Sequencer} {t : σ}

theorem Achieves.bind {x : SequencerM α} {f : α → SequencerM β} {mid : α → Sequencer → σ → Prop}
    {post : β → Sequencer → σ → Prop} (first : s.Achieves b t x mid)
    (rest : ∀ a s' t', mid a s' t' → s'.Achieves b t' (f a) post) : s.Achieves b t (x >>= f) post := by
  intro j
  obtain ⟨a, s', t', j', run, holds⟩ := first j
  obtain ⟨c, s'', t'', j'', later, result⟩ := rest a s' t' holds j'
  refine ⟨c, s'', t'', j'', ?_, result⟩
  rw [perform_bind, Program.runOn_bind, run]
  exact later

theorem Achieves.mono {x : SequencerM α} {post weaker : α → Sequencer → σ → Prop} (achieves : s.Achieves b t x post)
    (imp : ∀ a s' t', post a s' t' → weaker a s' t') : s.Achieves b t x weaker := by
  intro j
  obtain ⟨a, s', t', j', run, holds⟩ := achieves j
  exact ⟨a, s', t', j', run, imp a s' t' holds⟩

theorem Achieves.and {x : SequencerM α} {post also : α → Sequencer → σ → Prop} (achieves : s.Achieves b t x post)
    (achievesAlso : s.Achieves b t x also) : s.Achieves b t x fun a s' t' => post a s' t' ∧ also a s' t' := by
  intro j
  obtain ⟨a, s', t', j', run, holds⟩ := achieves j
  obtain ⟨c, r', u', k', again, holdsAlso⟩ := achievesAlso j
  obtain ⟨gave, rfl, -⟩ := Run.mk.inj (run.symm.trans again)
  obtain ⟨same, rfl⟩ := Prod.mk.inj (Option.some.inj gave)
  obtain rfl := Except.ok.inj same
  exact ⟨a, s', t', j', run, holds, holdsAlso⟩

/-- What a call shows of its accesses and its result holds of the run that achieves something. -/
theorem Achieves.shown {x : SequencerM α} {post : α → Sequencer → σ → Prop}
    {also : List Access → α → Sequencer → Prop} (achieves : s.Achieves b t x post) (shown : s.Shows x also) :
    s.Achieves b t x fun a s' t' => post a s' t' ∧ ∃ as, also as a s' := by
  intro j
  obtain ⟨a, s', t', j', run, holds⟩ := achieves j
  obtain ⟨as, -, holdsAlso⟩ := Program.Shows.runOn shown run
  exact ⟨a, s', t', j', run, holds, as, holdsAlso a rfl⟩

theorem Achieves.get_bind {f : Sequencer → SequencerM α} {post : α → Sequencer → σ → Prop}
    (achieves : s.Achieves b t (f s) post) : s.Achieves b t (get >>= f) post := by
  intro j
  rw [perform_bind_ok f (perform_get s)]
  exact achieves j

theorem Achieves.check_bind {x : SequencerM α} {r : Except Failure α} {a : α} {f : α → SequencerM β}
    {post : β → Sequencer → σ → Prop} (checks : s.perform x = done (r, s)) (passes : r = .ok a)
    (achieves : s.Achieves b t (f a) post) : s.Achieves b t (x >>= f) post := by
  intro j
  rw [perform_bind_passes f checks passes]
  exact achieves j

theorem achieves_pure (b : Board σ) (s : Sequencer) (t : σ) (a : α) :
    s.Achieves b t (pure a) fun c s' t' => c = a ∧ s' = s ∧ t' = t :=
  fun j => ⟨a, s, t, j, rfl, rfl, rfl, rfl⟩

/-- Something that touches no register. -/
theorem achieves_attempt (s : Sequencer) {x : Attempt α} {a : α} {t' : σ}
    (run : ∀ j, x.run.runOn b t j = ⟨some (.ok a), t', j⟩) :
    s.Achieves b t (liftM x) fun c s' u => c = a ∧ s' = s ∧ u = t' := by
  intro j
  refine ⟨a, s, t', j, ?_, rfl, rfl, rfl⟩
  rw [perform_attempt, Program.runOn_bind, run]
  rfl

/-- On a board that takes every access a call whose writes are known comes to its end. -/
theorem Issues.achieves {x : SequencerM α} {ws : List Write} {s' : Sequencer} (issues : s.Issues x ws s')
    (accepts : b.Accepts) (t : σ) :
    s.Achieves b t x fun _ after t' => after = s' ∧ (b.KeepsMemory → b.memory t' = b.memory t) := by
  intro j
  let run := (s.perform x).runOn b t j
  obtain ⟨_, ended, -, a, rfl⟩ := issues.completes accepts t j
  refine ⟨a, s', run.state, run.journal, ?_, rfl, fun keeps => Program.Issues.memory issues keeps t j⟩
  rw [← ended]

end Sequencer

end Systolic
