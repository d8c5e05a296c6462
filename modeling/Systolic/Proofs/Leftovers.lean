import Systolic.Proofs.Benchmark
import Systolic.Proofs.Datapath

namespace Systolic

open Sequencer Program

variable {σ α : Type} {b : Board σ} {s : Sequencer} {size : Nat}

/-- A board that takes no notice of the accesses that another one refuses, and is otherwise the same. -/
def Board.lenient (b : Board σ) : Board σ where
  read t offset := some ((b.read t offset).getD (0, t))
  write t offset value := some ((b.write t offset value).getD t)
  memory := b.memory
  withMemory := b.withMemory
  timing := b.timing

theorem Board.accepts_lenient (b : Board σ) : b.lenient.Accepts := ⟨fun _ _ => rfl, fun _ _ _ => rfl⟩

theorem Board.KeepsMemory.lenient (keeps : b.KeepsMemory) : b.lenient.KeepsMemory where
  read {t t' offset value} answer := by
    obtain same := Option.some.inj answer
    cases given : b.read t offset with
    | none =>
      rw [given] at same
      exact congrArg b.memory (congrArg Prod.snd same).symm
    | some pair =>
      rw [given] at same
      obtain rfl : pair = (value, t') := same
      exact keeps.read given
  write {t t' offset value} taken := by
    obtain same := Option.some.inj taken
    cases kept : b.write t offset value with
    | none =>
      rw [kept] at same
      exact congrArg b.memory same.symm
    | some u =>
      rw [kept] at same
      obtain rfl : u = t' := same
      exact keeps.write kept
  put := keeps.put

/-- Two accounts of one failed run agree in everything. -/
theorem Run.failed_inj {s s' : Sequencer} {t t' : σ} {j j' : Journal} {e e' : Failure}
    (same : (⟨some (.error e, s), t, j⟩ : Run σ (Except Failure α × Sequencer)) = ⟨some (.error e', s'), t', j'⟩) :
    e = e' ∧ s = s' ∧ t = t' ∧ j = j' := by
  obtain ⟨gave, state, journal⟩ := Run.mk.inj same
  obtain ⟨failure, sequencer⟩ := Prod.mk.inj (Option.some.inj gave)
  exact ⟨Except.error.inj failure, sequencer, state, journal⟩

/-- A run that comes to its end has had no access refused. -/
theorem Program.runOn_lenient {p : Program α} {t t' : σ} {j j' : Journal} {a : α}
    (run : p.runOn b t j = ⟨some a, t', j'⟩) : p.runOn b.lenient t j = ⟨some a, t', j'⟩ := by
  induction p generalizing t j with
  | done _ => exact run
  | read offset next ih =>
    cases answer : b.read t offset with
    | none => simp [runOn, answer] at run
    | some pair =>
      have given : b.lenient.read t offset = some pair := by simp [Board.lenient, answer]
      rw [runOn, answer] at run
      rw [runOn, given]
      exact ih pair.1 run
  | write offset value next ih =>
    cases taken : b.write t offset value with
    | none => simp [runOn, taken] at run
    | some u =>
      have kept : b.lenient.write t offset value = some u := by simp [Board.lenient, taken]
      rw [runOn, taken] at run
      rw [runOn, kept]
      exact ih run
  | load offset len next ih => exact ih _ run
  | store offset bytes next ih => exact ih run
  | clear offset len next ih => exact ih run
  | time next ih => exact ih _ run
  | halt => exact run

/-- What does not fail on any board that takes every access does not fail on any other. -/
theorem Sequencer.Achieves.not_error {x : SequencerM α} {post : α → Sequencer → σ → Prop} {t : σ}
    (achieves : s.Achieves b.lenient t x post) {e : Failure} {s' : Sequencer} {t' : σ} {j j' : Journal} :
    (s.perform x).runOn b t j ≠ ⟨some (.error e, s'), t', j'⟩ := by
  intro failed
  obtain ⟨a, _, _, _, run, -⟩ := achieves j
  obtain ⟨same, -, -⟩ := Run.mk.inj (run.symm.trans (Program.runOn_lenient failed))
  nomatch same

namespace Benchmark

variable {plan : Plan} {regions : Placement}

/-- What a benchmark does once the operands are staged and the board is reset. -/
def afterReset (size : Nat) (plan : Plan) (regions : Placement) (reset : WaitReport) : SequencerM Report := do
  Staging.clear size regions.outputs
  let load ← Sequencer.loadWeights regions.weights.bus 1
  Sequencer.execute regions.inputs.bus regions.outputs.bus plan.batch
  let finish ← Sequencer.finish
  let hardware ← Staging.readOutputs size regions.outputs plan.batch
  return ⟨plan.batch, [reset, load, finish], .compare ((inputs plan).map fun a => a * plan.weights) hardware⟩

theorem perform_run (placed : plan.layout.place size s.profile.busBase 1 plan.batch = .ok regions) :
    s.perform (run size plan) = store regions.weights.offset (Wire.weightBatch [plan.weights])
      (store regions.inputs.offset (Wire.inputBatch (inputs plan))
        (s.perform (reset >>= afterReset size plan regions))) := by
  obtain ⟨-, fits⟩ := Layout.fits_of_place placed
  have weightsLen := fits.weights.len
  have inputsLen := fits.inputs.len
  have weightsInside := fits.weights.inside
  have inputsInside := fits.inputs.inside
  have weightBytes : (Wire.weightBatch [plan.weights]).length = 64 := Wire.length_weightBatch _
  have inputBytes := Wire.length_inputBatch (inputs plan)
  have count := length_inputs plan
  rw [run, perform_bind_ok _ (perform_get s), perform_bind_passes _ (perform_except s _) placed]
  unfold Staging.writeWeights Staging.writeInputs
  rw [perform_attempt_bind, Staging.run_place (by omega) (by omega)]
  show store _ _ (s.perform _) = _
  rw [perform_attempt_bind, Staging.run_place (by omega) (by omega)]
  rfl

/-- What is left to do after the reset fails without streaming engines, with the room for the results emptied. -/
theorem afterReset_bare (plan : Plan) (inside : regions.outputs.offset + regions.outputs.len ≤ size)
    (idle : s.activity = .idle) (lacks : s.profile.dispatchers = none) (report : WaitReport) :
    s.perform (afterReset size plan regions report) = Program.clear regions.outputs.offset regions.outputs.len
      (done (.error (.unsupported s.profile.name "streaming dispatchers"), s)) := by
  have refused : s.needDispatchers = .error (.unsupported s.profile.name "streaming dispatchers") := by
    rw [needDispatchers, need, lacks]
  have fails : s.perform (loadWeights regions.weights.bus 1) =
      done (.error (.unsupported s.profile.name "streaming dispatchers"), s) := by
    unfold loadWeights
    rw [perform_bind_passes _ (perform_expectIdle s _) (needIdle_ok.mpr idle)]
    exact perform_bind_fails _ (perform_dispatchers s) refused
  rw [afterReset, perform_attempt_bind, Staging.run_clear inside]
  show Program.clear _ _ (s.perform _) = _
  rw [perform_bind_error _ fails]

/-- A board without streaming engines is found out once the operands are staged, the board is reset and the room for
the results is empty. -/
theorem bare (plan : Plan) (placed : plan.layout.place size s.profile.busBase 1 plan.batch = .ok regions)
    (lacks : s.profile.dispatchers = none) (accepts : b.Accepts) (t : σ) (j : Journal) :
    ∃ s' t' j', (s.perform (run size plan)).runOn b t j =
        ⟨some (.error (.unsupported s.profile.name "streaming dispatchers"), s'), t', j'⟩ ∧
      j'.writes = j.writes ++ resetWrites s.profile ∧
      (b.KeepsMemory → b.memory t' = prepared plan regions (b.memory t)) := by
  obtain ⟨-, fits⟩ := Layout.fits_of_place placed
  let staged₁ := b.withMemory t ((b.memory t).store regions.weights.offset (Wire.weightBatch [plan.weights]))
  let staged₂ := b.withMemory staged₁ ((b.memory staged₁).store regions.inputs.offset (Wire.inputBatch (inputs plan)))
  let rested : Sequencer := { s with lastCommand := some ControlBlock.idle, activity := .idle }
  have resets : s.Issues reset (resetWrites s.profile) rested := issues_reset s
  obtain ⟨_, ended, writes, report, rfl⟩ := resets.completes accepts staged₂ j
  have kept := fun keeps : b.KeepsMemory => Program.Issues.memory resets keeps staged₂ j
  have carried : (s.perform (run size plan)).runOn b t j =
      (s.perform (reset >>= afterReset size plan regions)).runOn b staged₂ j := by
    rw [perform_run placed]
    rfl
  have fails := afterReset_bare (s := rested) plan fits.outputs.inside rfl lacks report
  rw [carried, perform_bind, Program.runOn_bind]
  generalize (s.perform reset).runOn b staged₂ j = first at ended writes kept
  obtain ⟨_, u, k⟩ := first
  cases ended
  dsimp only at writes kept ⊢
  rw [fails]
  refine ⟨_, _, _, rfl, writes, ?_⟩
  intro keeps
  rw [keeps.put, kept keeps, keeps.put, keeps.put]
  rfl

end Benchmark

/-- A check that fails has touched nothing, but in these cases: a benchmark on a board without streaming engines has
staged its operands, reset the board and emptied the room for its results; a check of the data path whose sink leaves
the window has staged its rows; and one on a board without the engine inside the control block has staged its rows
and emptied the room for their results. -/
theorem failed_checks_leave (b : Board σ) (s : Sequencer) (size : Nat) (t : σ) (j : Journal) :
    (∀ plan e s' t' j', (s.perform (Benchmark.run size plan)).runOn b t j = ⟨some (.error e, s'), t', j'⟩ →
      (s' = s ∧ t' = t ∧ j' = j ∧ plan.layout.place size s.profile.busBase 1 plan.batch = .error e) ∨
      ∃ regions, plan.layout.place size s.profile.busBase 1 plan.batch = .ok regions ∧
        s.profile.dispatchers = none ∧ e = .unsupported s.profile.name "streaming dispatchers" ∧
        j'.writes = j.writes ++ resetWrites s.profile ∧
        (b.KeepsMemory → b.memory t' = Benchmark.prepared plan regions (b.memory t))) ∧
    ∀ plan e s' t' j', (s.perform (Datapath.run size plan)).runOn b t j = ⟨some (.error e, s'), t', j'⟩ →
      s' = s ∧ j' = j ∧
      ((t' = t ∧ ∀ transfer, Datapath.planned s.profile.busBase plan = .ok transfer →
          size < plan.source + 8 * plan.rows.toNat) ∨
        (size < plan.sink + 32 * plan.rows.toNat ∧
          t' = b.withMemory t ((b.memory t).store plan.source (Datapath.pattern (2 * plan.rows.toNat)))) ∨
        (s.profile.integrated = none ∧ e = .unsupported s.profile.name "integrated DMA" ∧
          (b.KeepsMemory → b.memory t' = Datapath.prepared plan (b.memory t)))) := by
  constructor
  · intro plan e s' t' j' failed
    cases placed : plan.layout.place size s.profile.busBase 1 plan.batch with
    | error e' =>
      rw [Benchmark.refused placed] at failed
      obtain ⟨rfl, rfl, rfl, rfl⟩ := Run.failed_inj failed
      exact .inl ⟨rfl, rfl, rfl, rfl⟩
    | ok regions =>
      right
      cases streams : s.profile.dispatchers with
      | some pair =>
        exact absurd failed (Benchmark.achieves_run streams b.accepts_lenient placed t).not_error
      | none =>
        -- That the run failed says that `b` refused no access, so it is the run of a board that never does.
        obtain ⟨_, _, _, ran, writes, memory⟩ := Benchmark.bare plan placed streams b.accepts_lenient t j
        obtain ⟨rfl, rfl, rfl, rfl⟩ := Run.failed_inj (ran.symm.trans (Program.runOn_lenient failed))
        exact ⟨regions, rfl, rfl, rfl, writes, fun keeps => memory keeps.lenient⟩
  · intro plan e s' t' j' failed
    cases passes : Datapath.planned s.profile.busBase plan with
    | error e' =>
      rw [Datapath.refused passes] at failed
      obtain ⟨rfl, rfl, rfl, rfl⟩ := Run.failed_inj failed
      exact ⟨rfl, rfl, .inl ⟨rfl, nofun⟩⟩
    | ok transfer =>
      by_cases fed : plan.source + 8 * plan.rows.toNat ≤ size
      · by_cases drained : plan.sink + 32 * plan.rows.toNat ≤ size
        · cases has : s.profile.integrated with
          | some dma =>
            exact absurd failed (Datapath.achieves_run passes fed drained has b.accepts_lenient t).not_error
          | none =>
            rw [Datapath.bare passes fed drained has] at failed
            obtain ⟨rfl, rfl, rfl, rfl⟩ := Run.failed_inj failed
            refine ⟨rfl, rfl, .inr (.inr ⟨rfl, rfl, ?_⟩)⟩
            intro keeps
            rw [keeps.put, keeps.put]
            rfl
        · rw [Datapath.sink_outside passes fed drained] at failed
          obtain ⟨rfl, rfl, rfl, rfl⟩ := Run.failed_inj failed
          exact ⟨rfl, rfl, .inr (.inl ⟨by omega, rfl⟩)⟩
      · rw [Datapath.source_outside passes fed] at failed
        obtain ⟨rfl, rfl, rfl, rfl⟩ := Run.failed_inj failed
        exact ⟨rfl, rfl, .inl ⟨rfl, fun _ _ => by omega⟩⟩

/-- The oldest board has no streaming engines: what a small benchmark and a check of the data path whose sink leaves
the window have done there before they fail. -/
theorem checks_fail_late :
    let s := Sequencer.start .niosLegacy .default
    let plan : Benchmark.Plan := ⟨1, ⟨0, 64, 128⟩, .identity⟩
    let board := Script.empty 0x180
    (∃ s' t' j' regions, (s.perform (Benchmark.run 0x180 plan)).runOn (Script.board (.steady 0)) board .empty =
        ⟨some (.error (.unsupported "nios-legacy" "streaming dispatchers"), s'), t', j'⟩ ∧
      j'.writes = resetWrites s.profile ∧ t'.memory = Benchmark.prepared plan regions board.memory) ∧
    ∃ e t', (s.perform (Datapath.run 0x180 ⟨0, 0x180, 1⟩)).runOn (Script.board (.steady 0)) board .empty =
        ⟨some (.error e, s), t', .empty⟩ ∧
      t' = { board with memory := board.memory.store 0 (Datapath.pattern 2) } := by
  intro s plan board
  obtain ⟨benchmarks, datapaths⟩ := failed_checks_leave (Script.board (.steady 0)) s 0x180 board .empty
  constructor
  · have placed : plan.layout.place 0x180 s.profile.busBase 1 1 = .ok ⟨⟨"weights", 0, 64, 0x20000000⟩,
        ⟨"inputs", 64, 64, 0x20000040⟩, ⟨"outputs", 128, 256, 0x20000080⟩⟩ := by cbv
    obtain ⟨s', t', j', ran, -, -⟩ := Benchmark.bare plan placed rfl Script.accepts board .empty
    rcases benchmarks plan _ s' t' j' ran with ⟨-, -, -, refused⟩ | ⟨regions, -, -, -, writes, memory⟩
    · cases placed.symm.trans refused
    · exact ⟨s', t', j', regions, ran, writes, memory Script.keepsMemory⟩
  · have passes : Datapath.planned s.profile.busBase ⟨0, 0x180, 1⟩ =
        .ok ⟨0x20000000, 2, 0x20000180, 8, 1⟩ := by cbv
    have fails := Datapath.sink_outside (s := s) passes (show 0 + 8 ≤ 0x180 by decide) (by decide)
    have ran : (s.perform (Datapath.run 0x180 ⟨0, 0x180, 1⟩)).runOn (Script.board (.steady 0)) board .empty =
        ⟨some (.error (.outOfBounds 0x180 32 0x180), s),
          { board with memory := board.memory.store 0 (Datapath.pattern 2) }, .empty⟩ := by
      rw [fails]
      rfl
    obtain ⟨-, -, ⟨-, source⟩ | ⟨-, staged⟩ | ⟨lacks, -⟩⟩ := datapaths _ _ _ _ _ ran
    · exact absurd (source _ passes) (by decide)
    · exact ⟨_, _, ran, staged⟩
    · exact absurd lacks (Option.some_ne_none _)

/-- The oldest board has no streaming engines, and a small memory with something at its end. A benchmark that fits
writes registers and clears that byte before it fails, and a check of the data path whose sink leaves the window has
put its first word at the source. -/
theorem failed_checks_leave_traces :
    let s := Sequencer.start .niosLegacy .default
    let board : Script := { Script.empty 0x180 with memory := (Memory.zeroed 0x180).store 0x17f [7] }
    (∃ e s' t' j', (s.perform (Benchmark.run 0x180 ⟨1, ⟨0, 64, 128⟩, .identity⟩)).runOn (Script.board (.steady 0))
        board .empty =
        ⟨some (.error e, s'), t', j'⟩ ∧
      j'.writes = [(0x30000, 0), (0x30000, 0)] ∧ board.memory.byte 0x17f = 7 ∧ t'.memory.byte 0x17f = 0) ∧
    ∃ e s' t' j', (s.perform (Datapath.run 0x180 ⟨0, 0x180, 1⟩)).runOn (Script.board (.steady 0)) board .empty =
        ⟨some (.error e, s'), t', j'⟩ ∧
      board.memory.byte 0 = 0 ∧ t'.memory.byte 0 = 0xaa := by
  intro s board
  have marked : board.memory.byte 0x17f = 7 ∧ board.memory.byte 0 = 0 := by
    simp [board, Memory.byte_store]
  constructor
  · have placed : (Layout.mk 0 64 128).place 0x180 s.profile.busBase 1 1 = .ok ⟨⟨"weights", 0, 64, 0x20000000⟩,
        ⟨"inputs", 64, 64, 0x20000040⟩, ⟨"outputs", 128, 256, 0x20000080⟩⟩ := by cbv
    obtain ⟨s', t', j', ran, writes, memory⟩ := Benchmark.bare ⟨1, ⟨0, 64, 128⟩, .identity⟩ placed rfl
      Script.accepts board .empty
    refine ⟨_, s', t', j', ran, writes, marked.1, ?_⟩
    have cleared := memory Script.keepsMemory
    change t'.memory = _ at cleared
    rw [cleared, Benchmark.prepared, Memory.byte_clear, if_pos (by decide)]
  · have passes : Datapath.planned s.profile.busBase ⟨0, 0x180, 1⟩ =
        .ok ⟨0x20000000, 2, 0x20000180, 8, 1⟩ := by cbv
    rw [Datapath.sink_outside passes (by decide) (by decide)]
    refine ⟨_, _, _, _, rfl, marked.2, ?_⟩
    show (board.memory.store 0 _).byte 0 = _
    rw [Memory.byte_store]
    rfl

end Systolic
