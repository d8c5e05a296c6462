import Systolic.Proofs.Outcome

namespace Systolic

variable {σ α β : Type}

namespace Program

/-- Whatever is read and loaded and however time passes, if the program comes to its end then `post` holds of its
register accesses, in order, and of its result. -/
def Shows : Program α → (List Access → α → Prop) → Prop
  | done a, post => post [] a
  | read offset next, post => ∀ value, (next value).Shows fun as => post (.read offset value :: as)
  | write offset value next, post => next.Shows fun as => post (.write offset value :: as)
  | load _ _ next, post => ∀ bytes, (next bytes).Shows post
  | store _ _ next, post => next.Shows post
  | clear _ _ next, post => next.Shows post
  | time next, post => ∀ clock, (next clock).Shows post
  | halt, _ => True

theorem Shows.mono {p : Program α} {post weaker : List Access → α → Prop} (shown : p.Shows post)
    (imp : ∀ as a, post as a → weaker as a) : p.Shows weaker := by
  induction p generalizing post weaker with
  | done a => exact imp [] a shown
  | read offset next ih => exact fun value => ih value (shown value) fun as => imp _
  | write offset value next ih => exact ih shown fun as => imp _
  | load offset len next ih => exact fun bytes => ih bytes (shown bytes) imp
  | store offset bytes next ih => exact ih shown imp
  | clear offset len next ih => exact ih shown imp
  | time next ih => exact fun clock => ih clock (shown clock) imp
  | halt => trivial

/-- What holds of all accesses and results is shown by every program. -/
theorem shows_all (p : Program α) {post : List Access → α → Prop} (all : ∀ as a, post as a) : p.Shows post := by
  induction p generalizing post with
  | done a => exact all [] a
  | read offset next ih => exact fun value => ih value fun as => all _
  | write offset value next ih => exact ih fun as => all _
  | load offset len next ih => exact fun bytes => ih bytes all
  | store offset bytes next ih => exact ih all
  | clear offset len next ih => exact ih all
  | time next ih => exact fun clock => ih clock all
  | halt => trivial

theorem Shows.bind {p : Program α} {f : α → Program β} {mid : List Access → α → Prop}
    {post : List Access → β → Prop} (first : p.Shows mid)
    (rest : ∀ as a, mid as a → (f a).Shows fun more => post (as ++ more)) : (p.bind f).Shows post := by
  induction p generalizing mid post with
  | done a => exact rest [] a first
  | read offset next ih => exact fun value => ih value (first value) fun as => rest _
  | write offset value next ih => exact ih first fun as => rest _
  | load offset len next ih => exact fun bytes => ih bytes (first bytes) rest
  | store offset bytes next ih => exact ih first rest
  | clear offset len next ih => exact ih first rest
  | time next ih => exact fun clock => ih clock (first clock) rest
  | halt => trivial

/-- What a program shows holds of what the journal of a run adds to the journal before it. -/
theorem Shows.runOn {p : Program α} {post : List Access → α → Prop} (shown : p.Shows post) {b : Board σ}
    {s s' : σ} {j j' : Journal} {a : α} (run : p.runOn b s j = ⟨some a, s', j'⟩) :
    ∃ as, j'.toList = j.toList ++ as ∧ post as a := by
  induction p generalizing s j post with
  | done b =>
    obtain ⟨same, -, rfl⟩ := Run.mk.inj run
    obtain rfl := Option.some.inj same
    exact ⟨[], by simp, shown⟩
  | read offset next ih =>
    cases answer : b.read s offset with
    | none => simp [Program.runOn, answer] at run
    | some pair =>
      obtain ⟨value, after⟩ := pair
      rw [Program.runOn, answer] at run
      obtain ⟨as, journal, holds⟩ := ih value (shown value) run
      exact ⟨.read offset value :: as, by simpa using journal, holds⟩
  | write offset value next ih =>
    cases taken : b.write s offset value with
    | none => simp [Program.runOn, taken] at run
    | some after =>
      rw [Program.runOn, taken] at run
      obtain ⟨as, journal, holds⟩ := ih shown run
      exact ⟨.write offset value :: as, by simpa using journal, holds⟩
  | load offset len next ih => exact ih _ (shown _) run
  | store offset bytes next ih => exact ih shown run
  | clear offset len next ih => exact ih shown run
  | time next ih => exact ih _ (shown _) run
  | halt => simp [Program.runOn] at run

end Program

namespace Sequencer

open Program

/-- Whatever is read, if the call does not fail then `post` holds of its register accesses, of what it gives and of the
sequencer after it. -/
def Shows (s : Sequencer) (x : SequencerM α) (post : List Access → α → Sequencer → Prop) : Prop :=
  (s.perform x).Shows fun as r => ∀ a, r.1 = .ok a → post as a r.2

variable {s : Sequencer}

theorem Shows.mono {x : SequencerM α} {post weaker : List Access → α → Sequencer → Prop} (shown : s.Shows x post)
    (imp : ∀ as a s', post as a s' → weaker as a s') : s.Shows x weaker :=
  Program.Shows.mono shown fun as r holds a ok => imp as a r.2 (holds a ok)

theorem Shows.bind {x : SequencerM α} {f : α → SequencerM β} {mid : List Access → α → Sequencer → Prop}
    {post : List Access → β → Sequencer → Prop} (first : s.Shows x mid)
    (rest : ∀ as a s', mid as a s' → s'.Shows (f a) fun more => post (as ++ more)) : s.Shows (x >>= f) post := by
  rw [Shows, perform_bind]
  refine Program.Shows.bind first ?_
  rintro as ⟨_ | a, s'⟩ holds
  · intro b same
    nomatch same
  · exact rest as a s' (holds a rfl)

theorem Shows.get_bind {f : Sequencer → SequencerM α} {post : List Access → α → Sequencer → Prop}
    (shown : s.Shows (f s) post) : s.Shows (get >>= f) post := by
  rw [Shows, perform_bind_ok f (perform_get s)]
  exact shown

/-- What comes after a check comes only if the check passes. -/
theorem Shows.check_bind {x : SequencerM α} {r : Except Failure α} {f : α → SequencerM β}
    {post : List Access → β → Sequencer → Prop} (checks : s.perform x = done (r, s))
    (rest : ∀ a, r = .ok a → s.Shows (f a) post) : s.Shows (x >>= f) post := by
  cases r with
  | error e =>
    rw [Shows, perform_bind_error f checks]
    intro b same
    nomatch same
  | ok a =>
    rw [Shows, perform_bind_ok f checks]
    exact rest a rfl

theorem shows_all (s : Sequencer) {x : SequencerM α} {post : List Access → α → Sequencer → Prop}
    (all : ∀ as a s', post as a s') : s.Shows x post :=
  Program.shows_all _ fun as r a _ => all as a r.2

theorem shows_pure {a : α} {post : List Access → α → Sequencer → Prop} (holds : post [] a s) :
    s.Shows (pure a) post := by
  rintro _ ⟨⟩
  exact holds

/-- A call that fails shows nothing that there is anything to say of. -/
theorem shows_throw (e : Failure) {post : List Access → α → Sequencer → Prop} : s.Shows (throw e) post := by
  rintro a ⟨⟩

theorem shows_program {p : Program α} {post : List Access → α → Prop} (shown : p.Shows post) :
    s.Shows (liftM p) fun as a s' => post as a ∧ s' = s := by
  rw [Shows, perform_program]
  refine shown.bind ?_
  rintro as a holds _ ⟨⟩
  rw [List.append_nil]
  exact ⟨holds, rfl⟩

end Sequencer

end Systolic
