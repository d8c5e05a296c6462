import Systolic.Proofs.Footprint

namespace Systolic

variable {σ τ α β : Type}

/-- Rules for accesses: in which standing an access may come, and which standing it leaves. -/
abbrev Rules (τ : Type) := τ → Access → τ → Prop

/-- Accesses that come one after the other by the rules, from one standing to another. -/
inductive Chain (rules : Rules τ) : τ → List Access → τ → Prop
  | none (q : τ) : Chain rules q [] q
  | step {q q' q'' a as} (allowed : rules q a q') (rest : Chain rules q' as q'') : Chain rules q (a :: as) q''

namespace Chain

variable {rules : Rules τ} {q q' q'' : τ} {a : Access} {before after : List Access}

theorem split (chain : Chain rules q (before ++ a :: after) q'') :
    ∃ left right, Chain rules q before left ∧ rules left a right ∧ Chain rules right after q'' := by
  induction before generalizing q with
  | nil =>
    cases chain with
    | step allowed rest => exact ⟨q, _, .none q, allowed, rest⟩
  | cons b before ih =>
    cases chain with
    | step allowed rest =>
      obtain ⟨left, right, first, middle, last⟩ := ih rest
      exact ⟨left, right, .step allowed first, middle, last⟩

/-- Accesses that leave another standing than they found have a last one, which left it. -/
theorem last (chain : Chain rules q before q') (moved : q ≠ q') :
    ∃ earlier a left, before = earlier ++ [a] ∧ rules left a q' := by
  rcases List.eq_nil_or_concat before with rfl | ⟨earlier, a, rfl⟩
  · cases chain
    exact absurd rfl moved
  · rw [List.concat_eq_append] at chain ⊢
    obtain ⟨left, right, -, allowed, rest⟩ := chain.split
    cases rest
    exact ⟨earlier, a, left, rfl, allowed⟩

theorem allowed (chain : Chain rules q before q') (member : a ∈ before) : ∃ left right, rules left a right := by
  obtain ⟨earlier, later, rfl⟩ := List.append_of_mem member
  obtain ⟨left, right, -, middle, -⟩ := chain.split
  exact ⟨left, right, middle⟩

end Chain

/-- Whether a board takes every access that the rules allow and stays as good as it was. -/
structure Board.Takes (b : Board σ) (rules : Rules τ) (good : σ → Prop) : Prop where
  read : ∀ {s q q' offset value}, good s → rules q (.read offset value) q' →
    ∃ given s', b.read s offset = some (given, s') ∧ good s'
  write : ∀ {s q q' offset value}, good s → rules q (.write offset value) q' →
    ∃ s', b.write s offset value = some s' ∧ good s'

namespace Program

variable {rules : Rules τ}

/-- Whatever is read and however time passes, the program keeps to the rules from a standing on and leaves shared memory
alone, and it ends, with a standing and a result that `post` holds of. -/
def Follows (rules : Rules τ) : Program α → τ → (τ → α → Prop) → Prop
  | done a, q, post => post q a
  | read offset next, q, post => ∀ value, ∃ q', rules q (.read offset value) q' ∧ (next value).Follows rules q' post
  | write offset value next, q, post => ∃ q', rules q (.write offset value) q' ∧ next.Follows rules q' post
  | load .., _, _ => False
  | store .., _, _ => False
  | clear .., _, _ => False
  | time next, q, post => ∀ clock, (next clock).Follows rules q post
  | halt, _, _ => False

theorem Follows.bind {p : Program α} {f : α → Program β} {q : τ} {mid : τ → α → Prop} {post : τ → β → Prop}
    (first : p.Follows rules q mid) (rest : ∀ q' a, mid q' a → (f a).Follows rules q' post) :
    (p.bind f).Follows rules q post := by
  induction p generalizing q with
  | done a => exact rest q a first
  | read offset next ih =>
    intro value
    obtain ⟨q', allowed, later⟩ := first value
    exact ⟨q', allowed, ih value later⟩
  | write offset value next ih =>
    obtain ⟨q', allowed, later⟩ := first
    exact ⟨q', allowed, ih later⟩
  | time next ih => exact fun clock => ih clock (first clock)
  | load | store | clear | halt => exact first.elim

theorem Follows.still {p : Program α} {f : α → Program β} {q : τ} {post : τ → β → Prop}
    (first : p.Follows rules q fun q' _ => q' = q) (rest : ∀ a, (f a).Follows rules q post) :
    (p.bind f).Follows rules q post := by
  refine first.bind ?_
  rintro _ a rfl
  exact rest a

/-- On any board the accesses that get made keep to the rules, also if the board refuses one and the run breaks off
there. If it does not, `post` holds of what it ends with. -/
theorem Follows.runOn {p : Program α} {q : τ} {post : τ → α → Prop} (follows : p.Follows rules q post) (b : Board σ)
    (s : σ) (j : Journal) :
    ∃ made q', (p.runOn b s j).journal.toList = j.toList ++ made ∧ Chain rules q made q' ∧
      ∀ a, (p.runOn b s j).result = some a → post q' a := by
  induction p generalizing q s j with
  | done a =>
    refine ⟨[], q, by simp [Program.runOn], .none q, ?_⟩
    intro result given
    obtain rfl : a = result := Option.some.inj given
    exact follows
  | read offset next ih =>
    cases answer : b.read s offset with
    | none => exact ⟨[], q, by simp [Program.runOn, answer], .none q, by simp [Program.runOn, answer]⟩
    | some pair =>
      obtain ⟨value, s'⟩ := pair
      obtain ⟨q', allowed, later⟩ := follows value
      obtain ⟨made, q'', journal, chain, result⟩ := ih value later s' (j.record (.read offset value))
      refine ⟨.read offset value :: made, q'', ?_, .step allowed chain, ?_⟩
      · simpa [Program.runOn, answer] using journal
      · simpa [Program.runOn, answer] using result
  | write offset value next ih =>
    obtain ⟨q', allowed, later⟩ := follows
    cases taken : b.write s offset value with
    | none => exact ⟨[], q, by simp [Program.runOn, taken], .none q, by simp [Program.runOn, taken]⟩
    | some s' =>
      obtain ⟨made, q'', journal, chain, result⟩ := ih later s' (j.record (.write offset value))
      refine ⟨.write offset value :: made, q'', ?_, .step allowed chain, ?_⟩
      · simpa [Program.runOn, taken] using journal
      · simpa [Program.runOn, taken] using result
  | time next ih => exact ih _ (follows _) s j
  | load | store | clear | halt => exact follows.elim

/-- A board that takes what the rules allow lets a program that keeps to them come to its end. -/
theorem Follows.ends {p : Program α} {q : τ} {post : τ → α → Prop} (follows : p.Follows rules q post) {b : Board σ}
    {good : σ → Prop} (takes : b.Takes rules good) {s : σ} (fine : good s) (j : Journal) :
    (p.runOn b s j).result.isSome := by
  induction p generalizing q s j with
  | done a => rfl
  | read offset next ih =>
    obtain ⟨_, allowed, -⟩ := follows 0
    obtain ⟨given, s', answer, still⟩ := takes.read fine allowed
    obtain ⟨_, -, later⟩ := follows given
    rw [Program.runOn, answer]
    exact ih given later still _
  | write offset value next ih =>
    obtain ⟨_, allowed, later⟩ := follows
    obtain ⟨s', taken, still⟩ := takes.write fine allowed
    rw [Program.runOn, taken]
    exact ih later still _
  | time next ih => exact ih _ (follows _) fine j
  | load | store | clear | halt => exact follows.elim

theorem follows_writeRegister {q q' : τ} {offset : Nat} {value : UInt32} (allowed : rules q (.write offset value) q') :
    (writeRegister offset value).Follows rules q fun q'' _ => q'' = q' :=
  ⟨q', allowed, rfl⟩

/-- Polling keeps to the rules if the register may be read at any time in the standing there is. -/
theorem follows_pollRegister {q : τ} {offset : Nat} (allowed : ∀ value, rules q (.read offset value) q)
    (limit : PollLimit) (ready : UInt32 → Bool) :
    (pollRegister limit offset ready).Follows rules q fun q' _ => q' = q := by
  have step : ∀ budget asked,
      (pollFrom (ready <$> readRegister offset) asked budget).Follows rules q fun q' _ => q' = q := by
    intro budget
    induction budget with
    | zero => exact fun _ => rfl
    | succ budget ih =>
      intro asked value
      refine ⟨q, allowed value, ?_⟩
      show Follows rules (if ready value then done (PollOutcome.ready (asked + 1)) else _) q _
      split
      · rfl
      · exact ih (asked + 1)
  rw [pollRegister_eq]
  exact fun clock => step _ _

end Program

end Systolic
