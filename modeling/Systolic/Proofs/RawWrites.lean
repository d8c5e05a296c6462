import Systolic.Proofs.Containment
import Systolic.Proofs.Reset

namespace Systolic

/-- The states that a device comes to from a fresh one by register writes, of whatever kind and in whatever order, the
latest first. The host may put anything into shared memory in between, and faults come and go. -/
inductive Handled (p : Profile) (size : Nat) : List Write → Device → Prop
  | fresh : Handled p size [] (.fresh p (.zeroed size))
  | write {h d} (handled : Handled p size h d) (w : Write) : Handled p size (w :: h) (d.write w.1 w.2)
  | memory {h d} (handled : Handled p size h d) {memory : Memory} (same : memory.size = size) :
      Handled p size h { d with memory }
  | faults {h d} (handled : Handled p size h d) (faults : Faults) : Handled p size h { d with faults }

variable {p : Profile} {pair : Dispatchers} {size : Nat} {h : List Write} {d : Device}

namespace Handled

theorem writeAll (handled : Handled p size h d) (ws : List Write) :
    Handled p size (ws.reverse ++ h) (d.writeAll ws) := by
  induction ws generalizing h d with
  | nil => exact handled
  | cons w ws ih =>
    rw [List.reverse_cons, List.append_assoc]
    exact ih (handled.write w)

theorem profile (handled : Handled p size h d) : d.profile = p := by
  induction handled with
  | fresh => rfl
  | write _ w ih => exact (Device.profile_write _ w.1 w.2).trans ih
  | memory _ _ ih | faults _ _ ih => exact ih

theorem size_memory (handled : Handled p size h d) (shipped : p ∈ Profile.all) : d.memory.size = size := by
  induction handled with
  | fresh => rfl
  | @write h d handled w ih => exact (d.size_write (handled.profile.symm ▸ shipped) w.1 w.2).trans ih
  | memory _ same _ => exact same
  | faults _ _ ih => exact ih

end Handled

/-- The latch is not a register of an engine. -/
theorem Profile.offset_of_latch {offset : Nat} (found : p.register offset = .latch) :
    p.block.weightLatch.map p.block.offset = some offset := by
  rcases p.register_cases offset with ⟨pair, direction, -, named⟩ | block
  · rw [found] at named
    unfold EngineBlock.register? at named
    repeat' split at named
    all_goals cases named
  · rw [block] at found
    unfold blockRegister at found
    repeat' split at found
    all_goals cases found
    assumption

theorem Profile.Streams.offset_of_latch (streams : p.Streams pair) {offset : Nat} (found : p.register offset = .latch) :
    offset = 0x3001c := by
  obtain ⟨word, latch, place⟩ := streams.latch
  have same := Profile.offset_of_latch found
  rw [latch, Option.map_some, place] at same
  exact (Option.some.inj same).symm

/-- The latch is at what was last written to it, whatever else was written. -/
theorem Handled.latch (streams : p.Streams pair) (handled : Handled p size h d) :
    d.latch = (lastWritten h 0x3001c).getD 0 := by
  induction handled with
  | fresh => rfl
  | @write h d handled w ih =>
    obtain rfl := handled.profile
    by_cases latches : w.1 = 0x3001c
    · obtain ⟨offset, value⟩ := w
      obtain rfl : offset = 0x3001c := latches
      rw [Device.write_latch streams rfl, lastWritten, List.lookup_cons_self]
      unfold Device.setLatch
      split <;> rfl
    · -- Whatever else this write does, the level goes through it untouched.
      have other : d.profile.register w.1 ≠ .latch := fun found => latches (streams.offset_of_latch found)
      have apart : (0x3001c == w.1) = false := by simpa using Ne.symm latches
      rw [(d.sameLatch_write other w.2).latch, ih, lastWritten, lastWritten, List.lookup_cons, apart]
  | memory _ _ ih | faults _ _ ih => exact ih

end Systolic
