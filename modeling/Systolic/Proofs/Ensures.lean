import Systolic.Proofs.Achieves
import Systolic.Proofs.DeviceWrites

namespace Systolic

open Program

variable {α β : Type}

namespace Sequencer

/-- From a sequencer and a device a call does not fail, and `post` holds of what it gives and of what
it leaves the two as, however long its waits take. -/
def Ensures (s : Sequencer) (d : Device) (x : SequencerM α) (post : α → Sequencer → Device → Prop) : Prop :=
  ∀ timing, s.Achieves (Device.board timing) d x post

variable {s : Sequencer} {d : Device}

theorem Ensures.bind {x : SequencerM α} {f : α → SequencerM β} {mid : α → Sequencer → Device → Prop}
    {post : β → Sequencer → Device → Prop} (first : s.Ensures d x mid)
    (rest : ∀ a s' d', mid a s' d' → s'.Ensures d' (f a) post) : s.Ensures d (x >>= f) post :=
  fun timing => Achieves.bind (first timing) fun a s' d' holds => rest a s' d' holds timing

theorem Ensures.mono {x : SequencerM α} {post weaker : α → Sequencer → Device → Prop}
    (ensures : s.Ensures d x post) (imp : ∀ a s' d', post a s' d' → weaker a s' d') : s.Ensures d x weaker :=
  fun timing => Achieves.mono (ensures timing) imp

theorem Ensures.and {x : SequencerM α} {post also : α → Sequencer → Device → Prop} (ensures : s.Ensures d x post)
    (ensuresAlso : s.Ensures d x also) : s.Ensures d x fun a s' d' => post a s' d' ∧ also a s' d' :=
  fun timing => Achieves.and (ensures timing) (ensuresAlso timing)

theorem Ensures.get_bind {f : Sequencer → SequencerM α} {post : α → Sequencer → Device → Prop}
    (ensures : s.Ensures d (f s) post) : s.Ensures d (get >>= f) post :=
  fun timing => Achieves.get_bind (ensures timing)

theorem Ensures.check_bind {x : SequencerM α} {r : Except Failure α} {a : α} {f : α → SequencerM β}
    {post : β → Sequencer → Device → Prop} (checks : s.perform x = done (r, s)) (passes : r = .ok a)
    (ensures : s.Ensures d (f a) post) : s.Ensures d (x >>= f) post :=
  fun timing => Achieves.check_bind checks passes (ensures timing)

theorem ensures_pure (s : Sequencer) (d : Device) (a : α) :
    s.Ensures d (pure a) fun b s' d' => b = a ∧ s' = s ∧ d' = d :=
  fun timing => achieves_pure (Device.board timing) s d a

theorem ensures_result (s : Sequencer) (d : Device) (a : α) : s.Ensures d (pure a) fun b _ _ => b = a :=
  (ensures_pure s d a).mono fun _ _ _ after => after.1

/-- A result that is one of several. -/
theorem ensures_some {κ : Type} (s : Sequencer) (d : Device) (a : κ → α) (k : κ) :
    s.Ensures d (pure (a k)) fun b _ _ => ∃ k, b = a k :=
  (ensures_result s d (a k)).mono fun _ _ _ same => ⟨k, same⟩

theorem has_dispatchers {p : Profile} {pair : Dispatchers} (streams : p.Streams pair) (sequencer : s.profile = p) :
    s.profile.dispatchers = some pair := by
  rw [sequencer, streams.dispatchers]

/-- A call whose writes are known leaves the device as after those. -/
theorem Issues.ensures {x : SequencerM α} {ws : List Write} {s' : Sequencer} (issues : s.Issues x ws s')
    (d : Device) : s.Ensures d x fun _ after d' => after = s' ∧ d' = d.writeAll ws := by
  intro timing j
  obtain ⟨a, j', run, -⟩ := issues.made timing d j
  exact ⟨a, s', _, j', run, rfl, rfl⟩

/-- A program that leaves a device as `d'` whichever of several results it comes to. -/
theorem ensures_program (s : Sequencer) {p : Program α} {κ : Type} {a : κ → α} {d' : Device}
    (run : ∀ timing j, ∃ k j', p.runOn (Device.board timing) d j = ⟨some (a k), d', j'⟩) :
    s.Ensures d (liftM p) fun b s' e => (∃ k, b = a k) ∧ s' = s ∧ e = d' := by
  intro timing j
  obtain ⟨k, j', run⟩ := run timing j
  refine ⟨a k, s, d', j', ?_, ⟨k, rfl⟩, rfl, rfl⟩
  rw [perform_program, Program.runOn_bind, run]
  rfl

end Sequencer

end Systolic
