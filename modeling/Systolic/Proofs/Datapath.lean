import Systolic.Check.Datapath
import Systolic.Proofs.Staging
import Systolic.Proofs.Transfers

namespace Systolic

open Sequencer Program

variable {σ : Type} {b : Board σ} {s : Sequencer} {size : Nat}

namespace Datapath

variable {plan : Plan} {t : Transfer}

theorem length_pattern (words : Nat) : (pattern words).length = 4 * words := by
  rw [pattern, List.length_flatMap]
  simp [Nat.mul_comm]

/-- What is asked of a plan before anything is staged for it, and the transfer that is to be run. -/
def planned (base : UInt32) (plan : Plan) : Except Failure Transfer := do
  let source ← busAddress base plan.source
  let sink ← busAddress base plan.sink
  let transfer ← Transfer.forRows source sink plan.rows
  transfer.check
  return transfer

theorem busAddress_ok {base bus : UInt32} {offset : Nat} :
    busAddress base offset = .ok bus ↔ base.toNat + offset < UInt32.size ∧ bus = base + UInt32.ofNat offset := by
  unfold busAddress Region.busAddress?
  by_cases addressable : base.toNat + offset < UInt32.size
  · rw [if_pos addressable]
    constructor
    · intro same
      exact ⟨addressable, (Except.ok.inj same).symm⟩
    · rintro ⟨-, rfl⟩
      rfl
  · rw [if_neg addressable]
    constructor
    · intro fails
      nomatch fails
    · intro ⟨within, _⟩
      exact absurd within addressable

/-- A plan passes if both its addresses are ones of the bus and its rows can be counted in the words of a transfer. -/
theorem planned_ok {base : UInt32} : planned base plan = .ok t ↔
    base.toNat + plan.source < UInt32.size ∧ base.toNat + plan.sink < UInt32.size ∧
      (1 ≤ plan.rows.toNat ∧ plan.rows.toNat ≤ 8191) ∧
      t = ⟨base + UInt32.ofNat plan.source, 2 * plan.rows, base + UInt32.ofNat plan.sink, 8 * plan.rows, plan.rows⟩ := by
  have size : UInt32.size = 2 ^ 32 := rfl
  constructor
  · intro passes
    obtain ⟨_, fed, rest⟩ := except_bind_ok.mp passes
    obtain ⟨_, drained, rest⟩ := except_bind_ok.mp rest
    obtain ⟨_, counted, rest⟩ := except_bind_ok.mp rest
    obtain ⟨_, checked, rest⟩ := except_bind_ok.mp rest
    obtain ⟨source, rfl⟩ := busAddress_ok.mp fed
    obtain ⟨sink, rfl⟩ := busAddress_ok.mp drained
    obtain ⟨-, rfl⟩ := Transfer.forRows_ok.mp counted
    exact ⟨source, sink, (Transfer.check_ok.mp checked).rows, (Except.ok.inj rest).symm⟩
  · rintro ⟨source, sink, ⟨positive, few⟩, rfl⟩
    have counts : 8 * plan.rows.toNat < UInt32.size := by omega
    obtain ⟨two, eight⟩ := Transfer.toNat_words counts
    refine except_bind_ok.mpr ⟨_, busAddress_ok.mpr ⟨source, rfl⟩, ?_⟩
    refine except_bind_ok.mpr ⟨_, busAddress_ok.mpr ⟨sink, rfl⟩, ?_⟩
    refine except_bind_ok.mpr ⟨_, Transfer.forRows_ok.mpr ⟨counts, rfl⟩, ?_⟩
    exact except_bind_ok.mpr ⟨(), Transfer.check_ok.mpr ⟨⟨positive, few⟩, two, eight⟩, rfl⟩

/-- What a check does once its plan has passed. -/
def carryOut (size : Nat) (plan : Plan) (t : Transfer) : SequencerM Report := do
  Staging.writeBytes size plan.source (pattern t.readWords.toNat)
  Staging.zero size plan.sink (4 * t.writeWords.toNat)
  let phase ← Sequencer.runIntegrated t
  let bytes ← Staging.readBytes size plan.sink (min (4 * t.writeWords.toNat) (4 * beats))
  return ⟨phase, (blocks 4 bytes).map Word.ofBytes⟩

/-- Nothing else is done for a plan that does not pass. -/
theorem refused {e : Failure} (fails : planned s.profile.busBase plan = .error e) :
    s.perform (run size plan) = done (.error e, s) := by
  rw [run, perform_bind_ok _ (perform_get s)]
  rcases except_bind_error fails with fails | ⟨source, fed, fails⟩
  · exact perform_bind_fails _ (perform_except s _) fails
  rw [perform_bind_passes _ (perform_except s _) fed]
  rcases except_bind_error fails with fails | ⟨sink, drained, fails⟩
  · exact perform_bind_fails _ (perform_except s _) fails
  rw [perform_bind_passes _ (perform_except s _) drained]
  rcases except_bind_error fails with fails | ⟨t, counted, fails⟩
  · exact perform_bind_fails _ (perform_except s _) fails
  rw [perform_bind_passes _ (perform_except s _) counted]
  rcases except_bind_error fails with fails | ⟨_, _, fails⟩
  · exact perform_bind_fails _ (perform_except s _) fails
  · nomatch fails

theorem perform_run (passes : planned s.profile.busBase plan = .ok t) :
    s.perform (run size plan) = s.perform (carryOut size plan t) := by
  obtain ⟨source, fed, rest⟩ := except_bind_ok.mp passes
  obtain ⟨sink, drained, rest⟩ := except_bind_ok.mp rest
  obtain ⟨_, counted, rest⟩ := except_bind_ok.mp rest
  obtain ⟨_, checked, rest⟩ := except_bind_ok.mp rest
  obtain rfl := Except.ok.inj rest
  rw [run, perform_bind_ok _ (perform_get s), perform_bind_passes _ (perform_except s _) fed,
    perform_bind_passes _ (perform_except s _) drained, perform_bind_passes _ (perform_except s _) counted,
    perform_bind_passes _ (perform_except s _) checked]
  rfl

/-- Shared memory before anything is streamed: the rows staged and the room for the results empty. -/
def prepared (plan : Plan) (m : Memory) : Memory :=
  (m.store plan.source (pattern (2 * plan.rows.toNat))).clear plan.sink (32 * plan.rows.toNat)

theorem length_staged (plan : Plan) : (pattern (2 * plan.rows.toNat)).length = 8 * plan.rows.toNat := by
  rw [length_pattern]
  omega

section Planned

variable (passes : planned s.profile.busBase plan = .ok t)
include passes

theorem fits_of_planned : t.Fits ∧ t.rows = plan.rows := by
  obtain ⟨-, -, ⟨positive, few⟩, rfl⟩ := planned_ok.mp passes
  have size : UInt32.size = 2 ^ 32 := rfl
  have counts : 8 * plan.rows.toNat < UInt32.size := by omega
  obtain ⟨two, eight⟩ := Transfer.toNat_words counts
  exact ⟨⟨⟨positive, few⟩, two, eight⟩, rfl⟩

/-- The words of a transfer that comes of a plan are those of the plan's rows. -/
theorem words_of_planned : t.readWords.toNat = 2 * plan.rows.toNat ∧ 4 * t.writeWords.toNat = 32 * plan.rows.toNat ∧
    32 * plan.rows.toNat < Memory.bound := by
  obtain ⟨fits, rows⟩ := fits_of_planned passes
  have few := fits.rows.2
  have bound : Memory.bound = 2 ^ 63 := rfl
  rw [fits.readWords, fits.writeWords, ← rows]
  omega

/-- A source that leaves the window is found out before anything is staged. -/
theorem source_outside (outside : ¬ plan.source + 8 * plan.rows.toNat ≤ size) :
    s.perform (run size plan) = done (.error (.outOfBounds plan.source (8 * plan.rows.toNat) size), s) := by
  obtain ⟨words, -, -⟩ := words_of_planned passes
  rw [perform_run passes, carryOut, perform_attempt_bind, words, Staging.run_writeBytes_outside
    (by rwa [length_staged]), length_staged]
  rfl

/-- A sink that leaves the window is found out once the rows are staged. -/
theorem sink_outside (inside : plan.source + 8 * plan.rows.toNat ≤ size)
    (outside : ¬ plan.sink + 32 * plan.rows.toNat ≤ size) :
    s.perform (run size plan) = store plan.source (pattern (2 * plan.rows.toNat))
      (done (.error (.outOfBounds plan.sink (32 * plan.rows.toNat) size), s)) := by
  obtain ⟨words, room, short⟩ := words_of_planned passes
  rw [perform_run passes, carryOut, perform_attempt_bind, words, Staging.run_writeBytes (by rwa [length_staged]), room]
  show store _ _ (s.perform _) = _
  rw [perform_attempt_bind, Staging.run_zero_outside outside short]
  rfl

section Inside

variable (fed : plan.source + 8 * plan.rows.toNat ≤ size) (drained : plan.sink + 32 * plan.rows.toNat ≤ size)
include fed drained

/-- A board without the engine is found out once the rows are staged and the room for the results is empty. -/
theorem bare (lacks : s.profile.integrated = none) :
    s.perform (run size plan) = store plan.source (pattern (2 * plan.rows.toNat))
      (Program.clear plan.sink (32 * plan.rows.toNat)
        (done (.error (.unsupported s.profile.name "integrated DMA"), s))) := by
  obtain ⟨words, room, -⟩ := words_of_planned passes
  rw [perform_run passes, carryOut, perform_attempt_bind, words, Staging.run_writeBytes (by rwa [length_staged]), room]
  show store _ _ (s.perform _) = _
  rw [perform_attempt_bind, Staging.run_zero drained]
  show store _ _ (Program.clear _ _ (s.perform _)) = _
  have refused : s.need "integrated DMA" Profile.integrated =
      .error (.unsupported s.profile.name "integrated DMA") := by
    rw [need, lacks]
  have fails : s.perform (runIntegrated t) = done (.error (.unsupported s.profile.name "integrated DMA"), s) :=
    perform_bind_fails _ (perform_require s _ _) refused
  rw [perform_bind_error _ fails]

/-- A check comes through if its transfer does from where the rows are staged and the room for the results is empty. -/
theorem achieves_staged (u : σ) (mid : WaitReport → Sequencer → σ → Prop) (transfers : ∀ u₁ u₂,
      u₁ = b.withMemory u ((b.memory u).store plan.source (pattern (2 * plan.rows.toNat))) →
      u₂ = b.withMemory u₁ ((b.memory u₁).clear plan.sink (32 * plan.rows.toNat)) →
      s.Achieves b u₂ (runIntegrated t) mid) :
    s.Achieves b u (run size plan) fun report s' u' => mid report.phase s' u' ∧
      report.beats = (blocks 4 ((b.memory u').load plan.sink (min (32 * plan.rows.toNat) (4 * beats)))).map
        Word.ofBytes := by
  obtain ⟨words, room, -⟩ := words_of_planned passes
  have staged : ∀ u j, (Staging.writeBytes size plan.source (pattern (2 * plan.rows.toNat))).run.runOn b u j =
      ⟨some (.ok ()), b.withMemory u ((b.memory u).store plan.source (pattern (2 * plan.rows.toNat))), j⟩ := by
    intro u j
    rw [Staging.run_writeBytes (by rwa [length_staged])]
    rfl
  have emptied : ∀ u j, (Staging.zero size plan.sink (32 * plan.rows.toNat)).run.runOn b u j =
      ⟨some (.ok ()), b.withMemory u ((b.memory u).clear plan.sink (32 * plan.rows.toNat)), j⟩ := by
    intro u j
    rw [Staging.run_zero drained]
    rfl
  have read : ∀ u j, (Staging.readBytes size plan.sink (min (32 * plan.rows.toNat) (4 * beats))).run.runOn b u j =
      ⟨some (.ok ((b.memory u).load plan.sink (min (32 * plan.rows.toNat) (4 * beats)))), u, j⟩ := by
    intro u j
    rw [Staging.run_readBytes (by omega)]
    rfl
  unfold Achieves
  rw [perform_run passes]
  change s.Achieves b u (carryOut size plan t) _
  unfold carryOut
  rw [words, room]
  refine Achieves.bind (achieves_attempt s (staged u)) ?_
  rintro _ s₁ u₁ ⟨-, rfl, placed⟩
  refine Achieves.bind (achieves_attempt s₁ (emptied u₁)) ?_
  rintro _ s₂ u₂ ⟨-, rfl, cleared⟩
  refine (transfers u₁ u₂ placed cleared).bind ?_
  intro phase s₃ u₃ transferred
  refine Achieves.bind (achieves_attempt s₃ (read u₃)) ?_
  rintro bytes s₄ _ ⟨rfl, rfl, rfl⟩
  refine (achieves_pure b _ _ _).mono ?_
  rintro _ _ _ ⟨rfl, rfl, rfl⟩
  exact ⟨transferred, rfl⟩

/-- With the engine there and both ranges in the window nothing fails. -/
theorem achieves_run {dma : IntegratedDma} (has : s.profile.integrated = some dma) (accepts : b.Accepts) (u : σ) :
    s.Achieves b u (run size plan) fun report _ u' =>
      report.beats = (blocks 4 ((b.memory u').load plan.sink (min (32 * plan.rows.toNat) (4 * beats)))).map
        Word.ofBytes ∧
      (b.KeepsMemory → b.memory u' = prepared plan (b.memory u)) := by
  have good : t.check = .ok () := Transfer.check_ok.mpr (fits_of_planned passes).1
  let left (u' : σ) : Prop := b.KeepsMemory → b.memory u' = prepared plan (b.memory u)
  have comes : s.Achieves b u (run size plan) _ :=
    achieves_staged passes fed drained u (fun _ _ u' => left u') ?_
  · exact comes.mono fun _ _ _ ⟨kept, shown⟩ => ⟨shown, kept⟩
  · rintro _ _ rfl rfl
    refine ((issues_runIntegrated has good).achieves accepts _).mono ?_
    rintro _ _ _ ⟨-, kept⟩ keeps
    rw [kept keeps, keeps.put, keeps.put, prepared]

end Inside

end Planned

end Datapath

end Systolic
