import Systolic.Proofs.Polls
import Systolic.Proofs.Reports
import Systolic.Proofs.Rows
import Systolic.Proofs.Transcript

namespace Systolic

open Sequencer Program

variable {σ α β : Type}

namespace Transfer

/-- A transfer as the engine inside the control block can run it, in numbers without bounds: it has rows, no more than
have their results counted in the length field, and the words in and out are those of its rows. -/
structure Fits (t : Transfer) : Prop where
  rows : 1 ≤ t.rows.toNat ∧ t.rows.toNat ≤ 8191
  readWords : t.readWords.toNat = 2 * t.rows.toNat
  writeWords : t.writeWords.toNat = 8 * t.rows.toNat

theorem toNat_words {rows : UInt32} (counts : 8 * rows.toNat < UInt32.size) :
    (2 * rows).toNat = 2 * rows.toNat ∧ (8 * rows).toNat = 8 * rows.toNat := by
  have size : UInt32.size = 2 ^ 32 := rfl
  have two : (2 : UInt32).toNat = 2 := rfl
  have eight : (8 : UInt32).toNat = 8 := rfl
  rw [UInt32.toNat_mul, UInt32.toNat_mul, two, eight]
  omega

theorem wordsFor_ok {rows : UInt32} {words : UInt32 × UInt32} :
    wordsFor rows = .ok words ↔ 8 * rows.toNat < UInt32.size ∧ words = (2 * rows, 8 * rows) := by
  unfold wordsFor
  by_cases counts : 8 * rows.toNat < UInt32.size
  · rw [if_pos counts]
    constructor
    · intro same
      exact ⟨counts, (Except.ok.inj same).symm⟩
    · rintro ⟨-, rfl⟩
      rfl
  · rw [if_neg counts]
    constructor
    · intro fails
      nomatch fails
    · intro ⟨small, _⟩
      exact absurd small counts

theorem wordsFor_error {rows : UInt32} {e : Failure} (fails : wordsFor rows = .error e) :
    ∃ m, e = .invalidArgument m := by
  unfold wordsFor at fails
  split at fails
  · nomatch fails
  · exact ⟨_, (Except.error.inj fails).symm⟩

theorem forRows_ok {source sink rows : UInt32} {t : Transfer} :
    forRows source sink rows = .ok t ↔
      8 * rows.toNat < UInt32.size ∧ t = ⟨source, 2 * rows, sink, 8 * rows, rows⟩ := by
  unfold forRows
  rw [except_bind_ok]
  constructor
  · intro ⟨words, counted, made⟩
    obtain ⟨counts, rfl⟩ := wordsFor_ok.mp counted
    exact ⟨counts, (Except.ok.inj made).symm⟩
  · rintro ⟨counts, rfl⟩
    exact ⟨_, wordsFor_ok.mpr ⟨counts, rfl⟩, rfl⟩

theorem fits_iff {t : Transfer} : t.Fits ↔ t.rows ≠ 0 ∧ 8 * t.rows.toNat < UInt32.size ∧
    (2 * t.rows, 8 * t.rows) = (t.readWords, t.writeWords) ∧ ¬ IntegratedDma.lengthMask < t.writeWords := by
  have size : UInt32.size = 2 ^ 32 := rfl
  have mask : IntegratedDma.lengthMask.toNat = 65535 := rfl
  rw [UInt32.lt_iff_toNat_lt, mask]
  constructor
  · intro ⟨⟨positive, few⟩, fed, drained⟩
    have counts : 8 * t.rows.toNat < UInt32.size := by omega
    obtain ⟨two, eight⟩ := toNat_words counts
    refine ⟨?_, counts, ?_, by omega⟩
    · intro empty
      rw [empty] at positive
      nomatch positive
    · rw [UInt32.toNat.inj (two.trans fed.symm), UInt32.toNat.inj (eight.trans drained.symm)]
  · intro ⟨nonempty, counts, same, short⟩
    obtain ⟨two, eight⟩ := toNat_words counts
    obtain ⟨fed, drained⟩ := Prod.mk.inj same
    have positive : t.rows.toNat ≠ 0 := fun zero => nonempty (UInt32.toNat.inj zero)
    rw [fed] at two
    rw [drained] at eight
    exact ⟨⟨by omega, by omega⟩, two, eight⟩

/-- The check lets no count of words pass that has wrapped around, and none that would reach the start bits. -/
theorem check_ok {t : Transfer} : t.check = .ok () ↔ t.Fits := by
  rw [fits_iff]
  constructor
  · intro passes
    unfold check at passes
    obtain ⟨nonempty, rest⟩ := when_ok passes
    obtain ⟨_, counted, rest⟩ := except_bind_ok.mp rest
    obtain ⟨counts, rfl⟩ := wordsFor_ok.mp counted
    obtain ⟨same, rest⟩ := unless_ok rest
    refine ⟨nonempty, counts, same, ?_⟩
    intro long
    rw [if_pos long] at rest
    nomatch rest
  · intro ⟨nonempty, counts, same, short⟩
    unfold check
    rw [if_neg nonempty]
    refine except_bind_ok.mpr ⟨_, wordsFor_ok.mpr ⟨counts, rfl⟩, ?_⟩
    dsimp only
    rw [if_pos same, if_neg short]
    rfl

theorem check_error {t : Transfer} {e : Failure} (fails : t.check = .error e) : ∃ m, e = .invalidArgument m := by
  unfold check at fails
  by_cases empty : t.rows = 0
  · rw [if_pos empty] at fails
    exact ⟨_, (Except.error.inj fails).symm⟩
  rw [if_neg empty] at fails
  rcases except_bind_error fails with wraps | ⟨words, -, fails⟩
  · exact wordsFor_error wraps
  by_cases same : words = (t.readWords, t.writeWords)
  · rw [if_pos same] at fails
    by_cases long : IntegratedDma.lengthMask < t.writeWords
    · rw [if_pos long] at fails
      exact ⟨_, (Except.error.inj fails).symm⟩
    · rw [if_neg long] at fails
      nomatch fails
  · rw [if_neg same] at fails
    exact ⟨_, (Except.error.inj fails).symm⟩

/-- What starts a transfer: both start bits, and under them nothing but the words to be written. -/
theorem control_word {t : Transfer} (fits : t.Fits) :
    let value := IntegratedDma.startWrite ||| IntegratedDma.startRead ||| t.writeWords
    value &&& (IntegratedDma.startRead ||| IntegratedDma.startWrite) =
        IntegratedDma.startRead ||| IntegratedDma.startWrite ∧
      value &&& IntegratedDma.lengthMask = t.writeWords := by
  intro value
  have starts : IntegratedDma.startWrite ||| IntegratedDma.startRead =
      IntegratedDma.startRead ||| IntegratedDma.startWrite := rfl
  have mask : IntegratedDma.lengthMask.toNat = 2 ^ 16 - 1 := rfl
  have small : (t.writeWords &&& IntegratedDma.lengthMask).toNat = t.writeWords.toNat := by
    obtain ⟨⟨_, few⟩, _, drained⟩ := fits
    rw [UInt32.toNat_and, mask, Nat.and_two_pow_sub_one_eq_mod]
    omega
  have apart : (IntegratedDma.startRead ||| IntegratedDma.startWrite) &&& IntegratedDma.lengthMask = 0 := rfl
  constructor
  · show (_ ||| _ ||| _) &&& _ = _
    rw [starts]
    exact mask_or_and _ _
  · have distributes : value &&& IntegratedDma.lengthMask =
        (IntegratedDma.startRead ||| IntegratedDma.startWrite) &&& IntegratedDma.lengthMask |||
          t.writeWords &&& IntegratedDma.lengthMask :=
      UInt32.toBitVec_inj.mp BitVec.and_or_distrib_right
    rw [distributes, apart, UInt32.zero_or]
    exact UInt32.toNat.inj small

end Transfer

namespace Polled

variable {n : Nat} {ready : UInt32 → Bool} {values : List UInt32} {outcome : PollOutcome}

theorem isReady (polled : Polled n ready values outcome) :
    outcome.isReady = true ↔ ∃ value ∈ values, ready value = true := by
  cases polled with
  | @ready early last _ now _ => exact ⟨fun _ => ⟨last, List.mem_concat_self, now⟩, fun _ => rfl⟩
  | expired never _ =>
    constructor
    · intro ended
      nomatch ended
    · intro ⟨value, among, now⟩
      exact absurd now (by simp [never value among])

theorem length_le (polled : Polled n ready values outcome) : values.length ≤ n := by
  cases polled with
  | ready _ _ within => simpa using within
  | expired _ all => exact all.le

theorem length_eq (polled : Polled n ready values outcome) (ranOut : outcome.isReady = false) : values.length = n := by
  cases polled with
  | ready => nomatch ranOut
  | expired _ all => exact all

end Polled

namespace Sequencer

variable {s : Sequencer}

theorem Shows.write_bind {word : Nat} {value : UInt32} {f : Unit → SequencerM β}
    {post : List Access → β → Sequencer → Prop}
    (rest : s.Shows (f ()) fun as => post (.write (s.profile.block.offset word) value :: as)) :
    s.Shows (writeWord word value >>= f) post := by
  have written : s.perform (writeWord word value >>= f) =
      .write (s.profile.block.offset word) value (s.perform (f ())) := perform_bind s _ f
  rw [Shows, written]
  exact rest

theorem Shows.command_bind {value : UInt32} {f : Unit → SequencerM β} {post : List Access → β → Sequencer → Prop}
    (rest : { s with lastCommand := some value }.Shows (f ()) fun as =>
      post (.write (s.profile.block.offset s.profile.block.control) value :: as)) :
    s.Shows (command value >>= f) post := by
  have written : s.perform (command value >>= f) =
      .write (s.profile.block.offset s.profile.block.control) value
        ({ s with lastCommand := some value }.perform (f ())) := perform_bind s _ f
  rw [Shows, written]
  exact rest

/-- The register accesses of a transfer: its writes, in their order, and then the polls of the status. -/
theorem shows_runIntegrated (s : Sequencer) (t : Transfer) {dma : IntegratedDma}
    (has : s.profile.integrated = some dma) :
    s.Shows (runIntegrated t) fun as report after => ∃ clock values outcome,
      as = (transferWrites s.profile dma t).map (fun w => .write w.1 w.2) ++
        values.map (.read s.profile.doneWatch.offset) ∧
      Polled (s.limit.polls clock) s.profile.doneWatch.ready values outcome ∧
      report = ⟨.execute, [⟨.dma .integrated, outcome⟩]⟩ ∧
      after = { s with lastCommand := some s.profile.block.execute } := by
  unfold runIntegrated transferWrites
  refine .check_bind (perform_require s _ _) fun dma' needs => ?_
  obtain rfl : dma' = dma := Option.some.inj ((need_ok.mp needs).symm.trans has)
  refine .check_bind (perform_except s _) fun _ _ => .get_bind ?_
  have polls := shows_pollRegister s.limit s.profile.doneWatch.offset s.profile.doneWatch.ready
  have ended : ∀ ws : List Access, { s with lastCommand := some s.profile.block.execute }.Shows
      (do
        let outcome ← pollWord s.profile.block.status fun value =>
          value &&& IntegratedDma.doneMask == IntegratedDma.doneMask
        return (⟨.execute, [⟨.dma .integrated, outcome⟩]⟩ : WaitReport))
      fun as report after => ∃ (clock : Clock) (values : List UInt32) (outcome : PollOutcome),
        ws ++ as = ws ++ values.map (Access.read s.profile.doneWatch.offset) ∧
        Polled (s.limit.polls clock) s.profile.doneWatch.ready values outcome ∧
        report = WaitReport.mk .execute [⟨.dma .integrated, outcome⟩] ∧
        after = { s with lastCommand := some s.profile.block.execute } := by
    intro ws
    refine Shows.bind (Shows.get_bind (shows_program polls)) ?_
    rintro _ outcome _ ⟨⟨clock, values, rfl, polled⟩, rfl⟩
    exact shows_pure ⟨clock, values, outcome, by rw [List.append_nil], polled, rfl, rfl⟩
  dsimp only
  cases s.profile.block.rowCount with
  | none => exact .write_bind <| .write_bind <| .write_bind <| .command_bind <| .write_bind <| ended [_, _, _, _, _]
  | some word =>
    exact .write_bind <| .write_bind <| .write_bind <| .write_bind <| .command_bind <| .write_bind <|
      ended [_, _, _, _, _, _]

end Sequencer

namespace Device

/-- What a transfer makes of a device. Its rows stream from its source to its sink, whatever the registers held that
say so, and the device is otherwise as it was. -/
structure Transferred (d d' : Device) (t : Transfer) : Prop where
  streams : ∃ registers status status',
    let started : Device :=
      { d with registers, command := d.profile.block.execute, integratedStatus := status }
    started.rowLimit = some t.rows.toNat ∧
      d' = { started.stream t.source (8 * t.rows.toNat) t.sink (32 * t.rows.toNat) with integratedStatus := status' }
  passes : d.Reaches t.source (8 * t.rows.toNat) → d.Reaches t.sink (32 * t.rows.toNat) →
    (t.source.toNat + 8 * t.rows.toNat ≤ t.sink.toNat ∨ t.sink.toNat + 32 * t.rows.toNat ≤ t.source.toNat) →
      Streamed d.active (t.source.toNat - d.profile.busBase.toNat) (t.sink.toNat - d.profile.busBase.toNat)
        t.rows.toNat d.memory d'.memory ∧
      d'.rowsStreamed = d.rowsStreamed + t.rows.toNat
  idles : ¬ d.Reaches t.source (8 * t.rows.toNat) ∨ ¬ d.Reaches t.sink (32 * t.rows.toNat) →
    d'.memory = d.memory ∧ d'.rowsStreamed = d.rowsStreamed

section Legacy

variable {d : Device} (legacy : d.profile = .niosLegacy)
include legacy

theorem write_plain (offset : Nat) (plain : Profile.niosLegacy.register offset = .plain) (value : UInt32) :
    d.write offset value = d.keep offset value := by
  rw [write, legacy, plain]

/-- What the engine inside the control block finds when it is started has all been written just before. -/
theorem writeAll_transfer (t : Transfer) :
    ∃ registers, ({ d with registers, command := 3 } : Device).rowLimit = some t.rows.toNat ∧
      (({ d with registers, command := 3 } : Device).word 2 = t.source ∧
        ({ d with registers, command := 3 } : Device).word 3 = t.readWords ∧
        ({ d with registers, command := 3 } : Device).word 4 = t.sink) ∧
      d.writeAll (transferWrites .niosLegacy ⟨2, 3, 4, 5⟩ t) =
        ({ d with registers, command := 3 } : Device).startIntegrated ⟨2, 3, 4, 5⟩
          (IntegratedDma.startWrite ||| IntegratedDma.startRead ||| t.writeWords) := by
  let value := IntegratedDma.startWrite ||| IntegratedDma.startRead ||| t.writeWords
  let registers := ((((d.registers.set 0x30018 t.rows).set 0x30008 t.source).set 0x3000c t.readWords).set 0x30010
    t.sink).set 0x30014 value
  have words : ∀ index, ({ d with registers, command := 3 } : Device).word index =
      registers.get (Profile.niosLegacy.block.offset index) := by
    intro index
    rw [← legacy]
    rfl
  have limits : ({ d with registers, command := 3 } : Device).rowLimit =
      some (registers.get (Profile.niosLegacy.block.offset 6)).toNat := by
    rw [rowLimit, show d.profile.block.rowCount = some 6 by rw [legacy]; rfl, ← words]
    rfl
  refine ⟨registers, ?limit, ?words, ?written⟩
  case limit =>
    rw [limits]
    simp [registers, Sparse.get_set, Profile.niosLegacy, Profile.streamingBlock, ControlBlock.offset]
  case words =>
    rw [words, words, words]
    simp [registers, Sparse.get_set, Profile.niosLegacy, Profile.streamingBlock, ControlBlock.offset]
  case written =>
    have commands : ∀ e : Device, e.profile = .niosLegacy → e.write 0x30000 3 = { e with command := 3 } := by
      intro e board
      rw [write, board]
      rfl
    have starts : ∀ e : Device, e.profile = .niosLegacy →
        e.write 0x30014 value = (e.keep 0x30014 value).startIntegrated ⟨2, 3, 4, 5⟩ value := by
      intro e board
      rw [write, board]
      rfl
    show (((((d.write 0x30018 t.rows).write 0x30008 t.source).write 0x3000c t.readWords).write 0x30010 t.sink).write
      0x30000 3).write 0x30014 value = _
    rw [write_plain legacy 0x30018 rfl, write_plain (by exact legacy) 0x30008 rfl,
      write_plain (by exact legacy) 0x3000c rfl, write_plain (by exact legacy) 0x30010 rfl,
      commands _ (by exact legacy), starts _ (by exact legacy)]
    rfl

theorem transferred {t : Transfer} (fits : t.Fits) :
    d.Transferred (d.writeAll (transferWrites .niosLegacy ⟨2, 3, 4, 5⟩ t)) t := by
  obtain ⟨registers, limit, ⟨source, readWords, sink⟩, written⟩ := d.writeAll_transfer legacy t
  obtain ⟨bits, length⟩ := Transfer.control_word fits
  have executes : d.profile.block.execute = 3 := by
    rw [legacy]
    rfl
  obtain ⟨status, status', streamed⟩ := ({ d with registers, command := 3 } : Device).startIntegrated_executes
    ⟨2, 3, 4, 5⟩ executes.symm bits
  have bytesIn : 4 * t.readWords.toNat = 8 * t.rows.toNat := by
    have fed := fits.readWords
    omega
  have bytesOut : 4 * t.writeWords.toNat = 32 * t.rows.toNat := by
    have drained := fits.writeWords
    omega
  rw [source, readWords, sink, length, bytesIn, bytesOut] at streamed
  let started : Device := { d with registers, command := 3, integratedStatus := status }
  have limited : started.rowLimit = some t.rows.toNat := limit
  have due : started.rowsDue (8 * t.rows.toNat) (32 * t.rows.toNat) = t.rows.toNat := by
    unfold started at limited ⊢
    rw [← rowsPassing_rowLimit, limited]
    show min t.rows.toNat (min (8 * t.rows.toNat / 8) (32 * t.rows.toNat / 32)) = _
    omega
  have law := started.streamsExactly_stream t.source (8 * t.rows.toNat) t.sink (32 * t.rows.toNat)
  rw [written, streamed]
  constructor
  case streams =>
    rw [executes]
    exact ⟨registers, status, status', limited, rfl⟩
  case passes =>
    have passes := law.passes
    rw [due] at passes
    exact passes fits.rows.1
  case idles =>
    have idles := law.idles
    rw [due] at idles
    exact fun outside => idles (.inr outside)

end Legacy

end Device

/-- A transfer is refused, before any register is touched, unless it is one that the engine can run, in numbers that
do not wrap around. One that is not refused is handed over whole: the start comes last and says nothing but what it
should, what the device streams is what the transfer asks for, and the report is clean if a poll found both halves
done. -/
theorem transfers_exact {s : Sequencer} {dma : IntegratedDma} (has : s.profile.integrated = some dma) (t : Transfer)
    (b : Board σ) (state : σ) (j : Journal) :
    (∀ source sink rows, (∃ t, Transfer.forRows source sink rows = .ok t) ↔ 8 * rows.toNat < 2 ^ 32) ∧
    (¬ t.Fits → ∃ m, (s.perform (runIntegrated t)).runOn b state j =
      ⟨some (.error (.invalidArgument m), s), state, j⟩) ∧
    (t.Fits → ∀ r state' j', (s.perform (runIntegrated t)).runOn b state j = ⟨some r, state', j'⟩ →
      ∃ (report : WaitReport) (values : List UInt32),
        r = (.ok report, { s with lastCommand := some s.profile.block.execute }) ∧
        j'.toList = j.toList ++ (transferWrites s.profile dma t).map (fun w => .write w.1 w.2) ++
          values.map (.read (s.profile.block.offset s.profile.block.status)) ∧
        (∀ n, s.limit = .attempts n → values.length ≤ n ∧ (report.isClean = false → values.length = n)) ∧
        (report.isClean = true ↔ ∃ value ∈ values, value &&& IntegratedDma.doneMask = IntegratedDma.doneMask)) ∧
    (t.Fits → b.Accepts → ∃ r state' j', (s.perform (runIntegrated t)).runOn b state j = ⟨some r, state', j'⟩) ∧
    (t.Fits → ∃ value, (transferWrites s.profile dma t).getLast? =
        some (s.profile.block.offset dma.writeControl, value) ∧
      value &&& (IntegratedDma.startRead ||| IntegratedDma.startWrite) =
        IntegratedDma.startRead ||| IntegratedDma.startWrite ∧
      value &&& IntegratedDma.lengthMask = t.writeWords) ∧
    (t.Fits → s.profile ∈ Profile.all → ∀ (timing : Timing) (d : Device), d.profile = s.profile → ∃ report d' j',
      (s.perform (runIntegrated t)).runOn (Device.board timing) d j =
        ⟨some (.ok report, { s with lastCommand := some s.profile.block.execute }), d', j'⟩ ∧
      d.Transferred d' t) := by
  have issued : t.Fits → s.Issues (runIntegrated t) (transferWrites s.profile dma t)
      { s with lastCommand := some s.profile.block.execute } :=
    fun fits => issues_runIntegrated has (Transfer.check_ok.mpr fits)
  refine ⟨?counted, ?refused, ?shown, ?ends, ?starts, ?streams⟩
  case counted =>
    intro source sink rows
    simp only [Transfer.forRows_ok]
    exact ⟨fun ⟨_, counts, _⟩ => counts, fun counts => ⟨_, counts, rfl⟩⟩
  case refused =>
    intro misfit
    cases checked : t.check with
    | ok _ => exact absurd (Transfer.check_ok.mp checked) misfit
    | error e =>
      obtain ⟨m, rfl⟩ := Transfer.check_error checked
      have refused : s.perform (runIntegrated t) = done (.error (.invalidArgument m), s) := by
        unfold runIntegrated
        rw [perform_bind_passes _ (perform_require s _ _) (need_ok.mpr has)]
        exact perform_bind_fails _ (perform_except s _) checked
      exact ⟨m, by rw [refused]; rfl⟩
  case shown =>
    intro fits r state' j' run
    obtain ⟨_, _, _, whole⟩ := Program.Issues.runOn (issued fits) b state j
    rw [run] at whole
    obtain ⟨-, report, rfl⟩ := whole r rfl
    obtain ⟨as, journal, holds⟩ := (shows_runIntegrated s t has).runOn run
    obtain ⟨clock, values, outcome, rfl, polled, rfl, -⟩ := holds report rfl
    have clean : (WaitReport.mk .execute [⟨.dma .integrated, outcome⟩]).isClean = outcome.isReady :=
      Bool.and_true _
    refine ⟨_, values, rfl, by rw [journal, List.append_assoc]; rfl, ?_, ?_⟩
    · intro n counted
      rw [counted] at polled
      rw [clean]
      exact ⟨polled.length_le, polled.length_eq⟩
    · rw [clean, polled.isReady]
      simp only [Profile.doneWatch, beq_iff_eq]
  case ends =>
    intro fits accepts
    obtain ⟨r, result⟩ := (issued fits).ended accepts state j
    exact ⟨r, _, _, by rw [← result]⟩
  case starts =>
    intro fits
    exact ⟨_, by simp [transferWrites], Transfer.control_word fits⟩
  case streams =>
    intro fits shipped timing d board
    obtain ⟨report, j', run, -⟩ := (issued fits).made timing d j
    refine ⟨report, _, j', run, ?_⟩
    obtain ⟨legacy, -⟩ := Profile.legacy_of_integrated shipped has
    obtain rfl : ⟨2, 3, 4, 5⟩ = dma := Option.some.inj ((congrArg Profile.integrated legacy).symm.trans has)
    rw [legacy]
    exact d.transferred (board.trans legacy) fits

/-- More rows than 32 bits have words for, with word counts that agree with them once they have wrapped around, and
three rows on a device that was last told to let one pass. -/
theorem wrapped_transfer_refused :
    let s := Sequencer.start .niosLegacy (.attempts 2)
    let wrapped : Transfer := ⟨0x20000000, 0x40000002, 0x20000100, 8, 0x20000001⟩
    let three : Transfer := ⟨0x20000000, 6, 0x20000100, 24, 3⟩
    let d : Device := { Device.fresh .niosLegacy (.zeroed 0x200) with registers := Sparse.empty.set 0x30018 1 }
    (s.profile.integrated = some ⟨2, 3, 4, 5⟩ ∧ ¬ wrapped.Fits ∧ three.Fits ∧ d.profile = s.profile) ∧
    (∃ m, (s.perform (runIntegrated wrapped)).runOn (Script.board (.steady 0)) (.empty 0) .empty =
      ⟨some (.error (.invalidArgument m), s), .empty 0, .empty⟩) ∧
    ∃ report d' j', (s.perform (runIntegrated three)).runOn (Device.board (.steady 0)) d .empty =
        ⟨some (.ok report, { s with lastCommand := some 3 }), d', j'⟩ ∧
      Device.Streamed d.active 0 0x100 3 d.memory d'.memory ∧ d'.rowsStreamed = 3 := by
  intro s wrapped three d
  have misfit : ¬ wrapped.Fits := by
    intro fits
    have few : 0x20000001 ≤ 8191 := fits.rows.2
    omega
  have fits : three.Fits := ⟨by decide, by decide, by decide⟩
  obtain ⟨-, refused, -⟩ := transfers_exact (s := s) rfl wrapped (Script.board (.steady 0)) (.empty 0) .empty
  obtain ⟨-, -, -, -, -, streams⟩ := transfers_exact (s := s) rfl three (Device.board (.steady 0)) d .empty
  obtain ⟨report, d', j', run, transferred⟩ := streams fits (by decide) (.steady 0) d rfl
  have apart : three.source.toNat + 8 * three.rows.toNat ≤ three.sink.toNat := by
    show 0x20000000 + 24 ≤ 0x20000100
    omega
  obtain ⟨streamed, counted⟩ := transferred.passes (by decide) (by decide) (.inl apart)
  have source : three.source.toNat - d.profile.busBase.toNat = 0 := Nat.sub_self 0x20000000
  have sink : three.sink.toNat - d.profile.busBase.toNat = 0x100 := Nat.add_sub_cancel_left 0x20000000 0x100
  rw [source, sink] at streamed
  exact ⟨⟨rfl, misfit, fits, rfl⟩, refused misfit, report, d', j', run, streamed, counted⟩

end Systolic
