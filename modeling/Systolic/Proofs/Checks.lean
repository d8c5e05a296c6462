import Systolic.Failure

namespace Systolic

variable {ε α β : Type}

theorem except_bind_ok {x : Except ε α} {f : α → Except ε β} {b : β} :
    (x >>= f) = .ok b ↔ ∃ a, x = .ok a ∧ f a = .ok b := by
  cases x with
  | error e => exact ⟨fun h => (nomatch h), fun ⟨_, h, _⟩ => (nomatch h)⟩
  | ok a => exact ⟨fun h => ⟨a, rfl, h⟩, fun ⟨_, same, h⟩ => Except.ok.inj same ▸ h⟩

theorem except_bind_of_ok {x : Except ε α} {a : α} (f : α → Except ε β) (passes : x = .ok a) : (x >>= f) = f a := by
  rw [passes]
  rfl

theorem except_bind_of_error {x : Except ε α} {e : ε} (f : α → Except ε β) (fails : x = .error e) :
    (x >>= f) = .error e := by
  rw [fails]
  rfl

theorem mapError_ok {ε' : Type} {f : ε → ε'} {x : Except ε α} {a : α} : x.mapError f = .ok a ↔ x = .ok a := by
  cases x with
  | error e => exact ⟨nofun, nofun⟩
  | ok b => exact ⟨fun same => congrArg _ (Except.ok.inj same), fun same => congrArg _ (Except.ok.inj same)⟩

theorem except_bind_error {x : Except Failure α} {f : α → Except Failure β} {e : Failure}
    (fails : (x >>= f) = .error e) : x = .error e ∨ ∃ a, x = .ok a ∧ f a = .error e := by
  cases x with
  | error e' =>
    obtain rfl : e' = e := Except.error.inj fails
    exact .inl rfl
  | ok a => exact .inr ⟨a, rfl, fails⟩

/-- A check that stands before the rest has passed if the whole does not fail. -/
theorem unless_ok {c : Prop} [Decidable c] {e : Failure} {rest : Unit → Except Failure α} {a : α}
    (passes : (if c then rest () else throw e >>= rest) = .ok a) : c ∧ rest () = .ok a := by
  split at passes
  · rename_i holds
    exact ⟨holds, passes⟩
  · nomatch passes

theorem when_ok {c : Prop} [Decidable c] {e : Failure} {rest : Unit → Except Failure α} {a : α}
    (passes : (if c then throw e >>= rest else rest ()) = .ok a) : ¬ c ∧ rest () = .ok a := by
  split at passes
  · nomatch passes
  · rename_i fails
    exact ⟨fails, passes⟩

end Systolic
