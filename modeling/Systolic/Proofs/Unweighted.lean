import Systolic.Proofs.Comparing
import Systolic.Proofs.Datapath
import Systolic.Proofs.Faults
import Systolic.Proofs.RawWrites
import Systolic.Proofs.WireLayout

namespace Systolic

open Sequencer Program

theorem Matrix.mul_fill_zero (a : Operand) : a * (fill 0 : Operand) = (fill 0 : Output) := by
  ext row col
  rw [← Int32.toInt_inj, toInt_mul, get_fill]
  refine Finset.sum_eq_zero fun k _ => ?_
  rw [get_fill]
  exact mul_zero _

theorem Wire.outputs_zero : outputs (.fill 0) = Vector.replicate 256 0 := by
  have word : Word.bytesBig (0 : Int32).toUInt32 = Vector.replicate 4 0 := by cbv
  refine ext_words ?_
  intro r c j inside
  rw [getElem_outputs, Matrix.get_fill, word, Vector.getElem_replicate]
  exact Vector.getElem_replicate j.isLt

namespace Device

variable {source len sink rows : Nat} {m : Memory}

theorem results_unweighted (k : Nat) : results (.fill 0) m source len k = Vector.replicate 256 0 := by
  rw [results, Matrix.mul_fill_zero, Wire.outputs_zero]

/-- Without weights all results are zero, and where nothing else was before they change nothing. It does not matter
what is fed, not even if the results go where it comes from. -/
theorem multiply_unweighted (empty : ∀ i, sink ≤ i → i < sink + 32 * rows → m.byte i = 0) :
    multiply (.fill 0) source len sink rows m = m := by
  have still : ∀ k, multiplyBlock (.fill 0) source len sink rows m k = m := by
    intro k
    refine Memory.ext (Memory.size_store ..) ?_
    intro i
    rw [byte_multiplyBlock]
    split
    · rename_i inside
      rw [empty i (by omega) inside.2.2]
      simp only [results_unweighted, Vector.getElem_replicate]
    · rfl
  unfold multiply
  induction List.range ((rows + 7) / 8) with
  | nil => rfl
  | cons k blocks ih => rw [List.foldl_cons, still k, ih]

theorem memory_stream_unweighted {d : Device} (unweighted : d.active = .fill 0) {sink : UInt32} {room : Nat}
    (empty : ∀ i, sink.toNat ≤ d.profile.busBase.toNat + i → d.profile.busBase.toNat + i < sink.toNat + room →
      d.memory.byte i = 0) (source : UInt32) (len : Nat) :
    (d.stream source len sink room).memory = d.memory := by
  have fits := (rowsPassing_le d.rowLimit len room).2
  unfold stream
  dsimp only
  split
  · rfl
  · cases d.offset? source len with
    | none => rfl
    | some s =>
      cases dst : d.offset? sink (32 * rowsPassing d.rowLimit len room) with
      | none => rfl
      | some t =>
        obtain ⟨above, rfl, -⟩ := holds_of_offset? dst
        dsimp only
        rw [unweighted]
        refine multiply_unweighted ?_
        intro i low high
        exact empty i (by omega) (by omega)

end Device

section Handled

variable {p : Profile} {size : Nat} {h : List Write} {s : Sequencer} {d : Device}

/-- A board without a latch and without engines to feed weights has none in use, whatever is written to it. -/
theorem Handled.unweighted (handled : Handled p size h d) (shipped : p ∈ Profile.all)
    (latchless : p.block.weightLatch = none) : d.active = .fill 0 := by
  induction handled with
  | fresh => rfl
  | @write h d handled w ih =>
    have profile := handled.profile
    have other : d.profile.register w.1 ≠ .latch := by
      intro found
      have place := Profile.offset_of_latch found
      rw [profile, latchless] at place
      nomatch place
    have latched := Profile.latched_of_shipped _ shipped
    rw [← profile] at latched
    exact ((d.sameLatch_write other w.2).active latched).trans ih
  | memory _ _ ih | faults _ _ ih => exact ih

/-- Whatever has been written to it, a device shows in its status only its faults and that an engine is done. -/
theorem Handled.driven (handled : Handled p size h d) (sequencer : s.profile = p) :
    Driven p s.limit d.faults s d := by
  refine ⟨sequencer, rfl, handled.profile, rfl, ?_⟩
  induction handled with
  | fresh => exact UInt32.zero_and
  | @write h d _ w ih => exact (d.sameBoard_write w.1 w.2).status.trans ih
  | memory _ _ ih | faults _ _ ih => exact ih

end Handled

namespace Datapath

variable {plan : Plan} {t : Transfer} {s : Sequencer} {d : Device}

/-- Words that are all zero, read back as such. -/
theorem words_empty {m : Memory} {offset count : Nat}
    (empty : ∀ i, offset ≤ i → i < offset + 4 * count → m.byte i = 0) :
    (blocks 4 (m.load offset (4 * count))).map Word.ofBytes = List.replicate count 0 := by
  rw [m.blocks_load offset (by decide), List.map_map, List.eq_replicate_iff]
  refine ⟨by simp, ?_⟩
  intro word among
  obtain ⟨i, within, rfl⟩ := List.mem_map.mp among
  have bound := List.mem_range.mp within
  have zero : m.block (offset + 4 * i) 4 = Vector.replicate 4 0 := by
    apply Vector.ext
    intro k inside
    rw [Memory.block, Vector.getElem_ofFn, Vector.getElem_replicate]
    exact empty _ (by omega) (by omega)
  rw [Function.comp_apply, zero]
  rfl

theorem byte_prepared_sink (plan : Plan) (m : Memory) {i : Nat} (low : plan.sink ≤ i)
    (high : i < plan.sink + 32 * plan.rows.toNat) : (prepared plan m).byte i = 0 := by
  rw [prepared, Memory.byte_clear, if_pos ⟨low, high⟩]

/-- What a check comes to on a board that multiplies by nothing: memory is as it was staged, and the words read back
are zero. -/
theorem ensures_unweighted {limit : PollLimit} {faults : Faults} {size : Nat}
    (driven : Driven .niosLegacy limit faults s d) (unweighted : d.active = .fill 0)
    (passes : planned s.profile.busBase plan = .ok t) (fed : plan.source + 8 * plan.rows.toNat ≤ size)
    (drained : plan.sink + 32 * plan.rows.toNat ≤ size) :
    s.Ensures d (run size plan) fun report _ d' => d'.memory = prepared plan d.memory ∧
      report.beats = List.replicate (min 16 (8 * plan.rows.toNat)) 0 ∧
      ∃ clock, report.phase = faults.transferReport limit clock := by
  obtain ⟨fits, rows⟩ := fits_of_planned passes
  have legacy : s.profile = .niosLegacy := driven.sequencer
  have has : s.profile.integrated = some ⟨2, 3, 4, 5⟩ := by rw [legacy]; rfl
  have good : t.check = .ok () := Transfer.check_ok.mpr fits
  intro timing
  have comes : s.Achieves (Device.board timing) d (run size plan) _ := achieves_staged passes fed drained d
    (fun phase _ d' => (∃ clock, phase = faults.transferReport limit clock) ∧ d'.memory = prepared plan d.memory) ?_
  · refine comes.mono ?_
    rintro found _ d' ⟨⟨phase, memory⟩, beats⟩
    refine ⟨memory, ?_, phase⟩
    have words : min (32 * plan.rows.toNat) (4 * Datapath.beats) = 4 * min 16 (8 * plan.rows.toNat) := by
      unfold Datapath.beats
      omega
    have shared : (Device.board timing).memory d' = prepared plan d.memory := memory
    rw [beats, shared, words]
    exact words_empty fun i low high => byte_prepared_sink plan d.memory low (by omega)
  · rintro _ staged rfl rfl
    let staged : Device := { d with memory := prepared plan d.memory }
    have still : Driven .niosLegacy limit faults s staged :=
      ⟨legacy, driven.limit, driven.device, driven.faults, driven.status⟩
    refine Achieves.mono ((still.runIntegrated good).and ((issues_runIntegrated has good).ensures staged) timing) ?_
    rintro _ _ _ ⟨reported, rfl, rfl⟩
    refine ⟨reported, ?_⟩
    rw [legacy]
    obtain ⟨registers, status, status', -, streamed⟩ := (staged.transferred driven.device fits).streams
    have base : staged.profile.busBase.toNat + plan.sink = t.sink.toNat := by
      obtain ⟨-, addressable, -, rfl⟩ := planned_ok.mp passes
      have size : UInt32.size = 2 ^ 32 := rfl
      have same : staged.profile = s.profile := driven.device.trans legacy.symm
      dsimp only
      rw [same, UInt32.toNat_add, UInt32.toNat_ofNat_of_lt' (by omega), Nat.mod_eq_of_lt (by omega)]
    have empty : ∀ i, t.sink.toNat ≤ staged.profile.busBase.toNat + i →
        staged.profile.busBase.toNat + i < t.sink.toNat + 32 * t.rows.toNat → staged.memory.byte i = 0 := by
      intro i low high
      rw [← base, rows] at high
      rw [← base] at low
      exact byte_prepared_sink plan d.memory (Nat.le_of_add_le_add_left low) (by omega)
    rw [streamed]
    exact Device.memory_stream_unweighted
      (d := { staged with registers, command := staged.profile.block.execute, integratedStatus := status })
      unweighted empty t.source (8 * t.rows.toNat)

/-- The plans that can be carried out, in numbers without bounds: some rows, no more than the length field has room for,
from and to addresses of 32 bits and within shared memory. -/
structure Plan.Fits (plan : Plan) (base : UInt32) (size : Nat) : Prop where
  rows : 1 ≤ plan.rows.toNat ∧ plan.rows.toNat ≤ 8191
  source : base.toNat + plan.source < 2 ^ 32
  sink : base.toNat + plan.sink < 2 ^ 32
  fed : plan.source + 8 * plan.rows.toNat ≤ size
  drained : plan.sink + 32 * plan.rows.toNat ≤ size

/-- The byte at an offset once the marker words lie at the source, low byte first, and then zeros at the sink. -/
def Plan.byteAfter (plan : Plan) (m : Memory) (i : Nat) : UInt8 :=
  if plan.sink ≤ i ∧ i < plan.sink + 32 * plan.rows.toNat then 0
  else if plan.source ≤ i ∧ i < plan.source + 8 * plan.rows.toNat then
    Word.twosByte (((i - plan.source) / 4) <<< 16 ||| 0xaa : Nat) ((i - plan.source) % 4)
  else m.byte i

theorem planned_of_fits {base : UInt32} {size : Nat} (fits : plan.Fits base size) : ∃ t, planned base plan = .ok t :=
  ⟨_, planned_ok.mpr ⟨fits.source, fits.sink, fits.rows, rfl⟩⟩

/-- A plan that cannot be carried out is refused, whatever the board. -/
theorem refused_of_not_fits {σ : Type} {size : Nat} (misfit : ¬ plan.Fits s.profile.busBase size) (b : Board σ) (u : σ)
    (j : Journal) : ∃ e u', (s.perform (run size plan)).runOn b u j = ⟨some (.error e, s), u', j⟩ := by
  cases passes : planned s.profile.busBase plan with
  | error e =>
    rw [refused passes]
    exact ⟨e, u, rfl⟩
  | ok t =>
    obtain ⟨source, sink, rows, -⟩ := planned_ok.mp passes
    by_cases fed : plan.source + 8 * plan.rows.toNat ≤ size
    · have outside : ¬ plan.sink + 32 * plan.rows.toNat ≤ size :=
        fun drained => misfit ⟨rows, source, sink, fed, drained⟩
      rw [sink_outside passes fed outside]
      exact ⟨_, _, rfl⟩
    · rw [source_outside passes fed]
      exact ⟨_, _, rfl⟩

/-- The bytes of the marker words, in order. -/
theorem getElem?_pattern {words k : Nat} (within : k < 4 * words) (few : words ≤ 65536) :
    (pattern words)[k]? = some (Word.twosByte ((k / 4) <<< 16 ||| 0xaa : Nat) (k % 4)) := by
  have bound : k / 4 < (List.range words).length := by rw [List.length_range]; omega
  have whole : 4 * (k / 4) + k % 4 = k := Nat.div_add_mod k 4
  have value : (marker (k / 4)).toNat = (k / 4) <<< 16 ||| 0xaa := by
    have small : k / 4 < 65536 := by omega
    have number : (UInt32.ofNat (k / 4)).toNat = k / 4 := UInt32.toNat_ofNat_of_lt' (by rw [UInt32.size]; omega)
    have sixteen : (16 : UInt32).toNat % 32 = 16 := rfl
    rw [marker, UInt32.toNat_or, UInt32.toNat_shiftLeft, number, sixteen, Nat.mod_eq_of_lt]
    · rfl
    · rw [Nat.shiftLeft_eq]
      omega
  have byte := getElem?_flatMap (fun i => Word.bytes (marker i)) (List.range words) bound ⟨k % 4, by omega⟩
  rw [whole, List.getElem_range] at byte
  refine byte.trans (congrArg some ?_)
  rw [← value]
  exact Word.getElem_bytes _ _

theorem byte_prepared (m : Memory) (few : plan.rows.toNat ≤ 8191) (i : Nat) :
    (prepared plan m).byte i = plan.byteAfter m i := by
  have length := length_staged plan
  rw [prepared, Memory.byte_clear, Plan.byteAfter]
  split
  · rfl
  · split
    · rename_i inside
      rw [Memory.byte_store, if_pos inside.1, getElem?_pattern (by omega) (by omega)]
      rfl
    · rename_i outside
      exact Memory.byte_store_outside m (by omega)

end Datapath

theorem PollLimit.isReady_settle {limit : PollLimit} {clock : Clock} (positive : 0 < limit.polls clock) (ready : Bool) :
    (limit.settle clock ready).isReady = ready := by
  unfold settle
  cases ready with
  | true =>
    rw [if_pos ⟨rfl, positive⟩]
    rfl
  | false => rfl

/-- The oldest board never has weights to multiply by, whatever is written to it. So a check of its data path says no
more than that the rows came through: it is carried out just when its plan fits, leaves memory with the marker words at
the source and zeros at the sink, reads zeros back and passes unless the engine is stuck. -/
theorem Handled.datapath_exact {size n : Nat} {h : List Write} {s : Sequencer} {d : Device}
    (handled : Handled .niosLegacy size h d) (sequencer : s.profile = .niosLegacy) (limited : s.limit = .attempts n)
    (positive : 1 ≤ n) (plan : Datapath.Plan) (timing : Timing) (j : Journal) :
    let run := (s.perform (Datapath.run size plan)).runOn (Device.board timing) d j
    d.active = .fill 0 ∧
    ((∃ report s' d' j', run = ⟨some (.ok report, s'), d', j'⟩) ↔ plan.Fits Profile.niosLegacy.busBase size) ∧
    (¬ plan.Fits Profile.niosLegacy.busBase size → ∃ e s' d' j', run = ⟨some (.error e, s'), d', j'⟩) ∧
    ∀ report s' d' j', run = ⟨some (.ok report, s'), d', j'⟩ →
      d'.memory.size = size ∧ (∀ i, d'.memory.byte i = plan.byteAfter d.memory i) ∧
      report.beats = List.replicate (min 16 (8 * plan.rows.toNat)) 0 ∧
      (report.passed = true ↔ d.faults.stuckDma ≠ some .integrated) := by
  intro run
  have shipped : Profile.niosLegacy ∈ Profile.all := by decide
  have unweighted := handled.unweighted shipped rfl
  refine ⟨unweighted, ?_⟩
  rw [← sequencer]
  by_cases fits : plan.Fits s.profile.busBase size
  · obtain ⟨t, passes⟩ := Datapath.planned_of_fits fits
    obtain ⟨report, s', d', j', ran, memory, beats, clock, phase⟩ :=
      Datapath.ensures_unweighted (handled.driven sequencer) unweighted passes fits.fed fits.drained timing j
    refine ⟨⟨fun _ => fits, fun _ => ⟨report, s', d', j', ran⟩⟩, fun misfit => absurd fits misfit, ?_⟩
    intro _ _ _ _ same
    obtain ⟨gave, rfl, -⟩ := Run.mk.inj (ran.symm.trans same)
    obtain ⟨given, -⟩ := Prod.mk.inj (Option.some.inj gave)
    obtain rfl := Except.ok.inj given
    refine ⟨?size, ?bytes, beats, ?passed⟩
    case size =>
      rw [memory]
      exact (Memory.size_clear ..).trans ((Memory.size_store ..).trans (handled.size_memory shipped))
    case bytes =>
      rw [memory]
      exact Datapath.byte_prepared d.memory fits.rows.2
    case passed =>
      have room : 0 < s.limit.polls clock := by
        rw [limited]
        exact positive
      have clean : report.passed = (s.limit.settle clock (d.faults.stuckDma ≠ some .integrated)).isReady := by
        rw [Datapath.Report.passed, phase]
        exact Bool.and_true _
      rw [clean, PollLimit.isReady_settle room, decide_eq_true_iff]
  · obtain ⟨e, d', fails⟩ := Datapath.refused_of_not_fits fits (Device.board timing) d j
    have never : ∀ report s' d' j', run ≠ ⟨some (.ok report, s'), d', j'⟩ := by
      intro report s' d' j' ran
      nomatch fails.symm.trans ran
    exact ⟨⟨fun ⟨_, _, _, _, ran⟩ => absurd ran (never _ _ _ _), fun possible => absurd possible fits⟩,
      fun _ => ⟨e, s, d', j, fails⟩, fun _ _ _ _ ran => absurd ran (never _ _ _ _)⟩

/-- Two rows whose results are to go over the second of them, on a board that has been started by hand and whose
engine is stuck. -/
theorem overlapping_datapath_exact :
    let d : Device := { ((Device.fresh .niosLegacy (.zeroed 0x48)).write 0x30000 3).write 0x30014 0x30008 with
      faults := ⟨some .integrated, false, none⟩ }
    let s := Sequencer.start .niosLegacy (.attempts 1)
    ∃ report s' d' j', (s.perform (Datapath.run 0x48 ⟨0, 8, 2⟩)).runOn (Device.board (.steady 0)) d .empty =
        ⟨some (.ok report, s'), d', j'⟩ ∧
      d'.memory.byte 4 = 0xaa ∧ d'.memory.byte 8 = 0 ∧ report.beats = List.replicate 16 0 ∧
      report.passed = false := by
  intro d s
  have handled : Handled .niosLegacy 0x48 [(0x30014, 0x30008), (0x30000, 3)] d :=
    ((Handled.fresh.write (0x30000, 3)).write (0x30014, 0x30008)).faults _
  obtain ⟨-, carried, -, exact⟩ :=
    handled.datapath_exact (s := s) (n := 1) rfl rfl (Nat.le_refl 1) ⟨0, 8, 2⟩ (.steady 0) .empty
  have fits : Datapath.Plan.Fits ⟨0, 8, 2⟩ Profile.niosLegacy.busBase 0x48 := by
    constructor <;> decide
  obtain ⟨report, s', d', j', ran⟩ := carried.mpr fits
  obtain ⟨-, bytes, beats, passed⟩ := exact report s' d' j' ran
  refine ⟨report, s', d', j', ran, (bytes 4).trans (by decide), (bytes 8).trans (by decide), beats, ?_⟩
  exact Bool.eq_false_iff.mpr fun clean => absurd rfl (passed.mp clean)

end Systolic
