import Mathlib.Algebra.BigOperators.Fin
import Systolic.Proofs.Containment
import Systolic.Proofs.Reference
import Systolic.Proofs.WireLayout

namespace Systolic

namespace Device

/-- What the array makes of eight bytes of memory in a row, for one of its columns. -/
def rowSum (m : Memory) (weights : Operand) (row : Nat) (c : Fin 8) : Int :=
  ∑ k : Fin 8, (m.byte (row + k.val)).toInt8.toInt * (weights.get k c).toInt

theorem toInt_product_row {weights : Operand} {m : Memory} {source len i : Nat} (fed : 8 * i + 8 ≤ len) (c : Fin 8) :
    ((Wire.ofInputs (inputBlock m source len (i / 8)) * weights).get ⟨i % 8, by omega⟩ c).toInt =
      rowSum m weights (source + 8 * i) c := by
  have element : ∀ k : Fin 8, (Wire.ofInputs (inputBlock m source len (i / 8))).get ⟨i % 8, by omega⟩ k =
      (m.byte (source + 8 * i + k.val)).toInt8 := by
    intro k
    have within : 64 * (i / 8) + (8 * (i % 8) + k.val) < len := by omega
    have place : source + 64 * (i / 8) + (8 * (i % 8) + k.val) = source + 8 * i + k.val := by omega
    simp only [Wire.ofInputs_eq, Matrix.get_ofFn, inputBlock, Vector.getElem_ofFn]
    rw [if_pos within, place]
  rw [Matrix.toInt_mul]
  simp only [element, rowSum]

/-- Memory after some rows: the results of the row `i` stand in the 32 bytes from `sink + 32 * i` on, the lanes of each
pair exchanged and the most significant byte of each first, and nothing else has changed. -/
structure Streamed (weights : Operand) (source sink rows : Nat) (m n : Memory) : Prop where
  results : ∀ (i : Nat) (c : Fin 8) (j : Fin 4), i < rows →
    n.byte (sink + 32 * i + 4 * (c.val ^^^ 1) + j.val) =
      Word.twosByte (rowSum m weights (source + 8 * i) c) (3 - j.val)
  kept : ∀ i, i < sink ∨ sink + 32 * rows ≤ i → n.byte i = m.byte i
  size : n.size = m.size

theorem results_multiply {weights : Operand} {m : Memory} {source len sink rows i : Nat} (fed : 8 * rows ≤ len)
    (apart : source + len ≤ sink ∨ sink + 32 * rows ≤ source) (passes : i < rows) (c : Fin 8) (j : Fin 4) :
    (multiply weights source len sink rows m).byte (sink + 32 * i + 4 * (c.val ^^^ 1) + j.val) =
      Word.twosByte (rowSum m weights (source + 8 * i) c) (3 - j.val) := by
  have lane : c.val ^^^ 1 = (Matrix.lane c).val := rfl
  have place : sink + 32 * i + 4 * (Matrix.lane c).val + j.val =
      sink + 256 * (i / 8) + (4 * (8 * (i % 8) + (Matrix.lane c).val) + j.val) := by omega
  have bound : 4 * (8 * (i % 8) + (Matrix.lane c).val) + j.val < 256 := by omega
  have shares : Multiplied weights source len sink rows m ((rows + 7) / 8) (multiply weights source len sink rows m) :=
    multiplied apart
  have block := shares.inside (i / 8) ⟨_, bound⟩ (by omega) (by
    dsimp only
    omega)
  have element := Wire.getElem_outputs_lane (Wire.ofInputs (inputBlock m source len (i / 8)) * weights)
    ⟨i % 8, by omega⟩ c j bound
  rw [lane, place]
  rw [toInt_product_row (by omega)] at element
  exact block.trans element

/-- How many rows of a feed of `len` bytes pass into `room` bytes: no more than the row count says, where there is one,
and no part of a row. -/
def rowsDue (d : Device) (len room : Nat) : Nat :=
  match d.profile.block.rowCount with
  | some word => min (d.word word).toNat (min (len / 8) (room / 32))
  | none => min (len / 8) (room / 32)

theorem rowsPassing_rowLimit (d : Device) (len room : Nat) : rowsPassing d.rowLimit len room = d.rowsDue len room := by
  unfold rowsPassing rowLimit rowsDue
  cases d.profile.block.rowCount <;> rfl

/-- What comes of a stream of `len` bytes at `source` into `room` bytes at `sink`. If rows are to pass, and the feed
and their results lie in shared memory and do not meet, every row that is to pass does. If none is, or one of the
ranges is not in shared memory, nothing happens. -/
structure StreamsExactly (d d' : Device) (source : UInt32) (len : Nat) (sink : UInt32) (room : Nat) : Prop where
  passes : 0 < d.rowsDue len room → d.Reaches source len → d.Reaches sink (32 * d.rowsDue len room) →
    (source.toNat + len ≤ sink.toNat ∨ sink.toNat + 32 * d.rowsDue len room ≤ source.toNat) →
      Streamed d.active (source.toNat - d.profile.busBase.toNat) (sink.toNat - d.profile.busBase.toNat)
          (d.rowsDue len room) d.memory d'.memory ∧
        d'.rowsStreamed = d.rowsStreamed + d.rowsDue len room
  idles : d.rowsDue len room = 0 ∨ ¬ d.Reaches source len ∨ ¬ d.Reaches sink (32 * d.rowsDue len room) →
    d'.memory = d.memory ∧ d'.rowsStreamed = d.rowsStreamed

theorem streamsExactly_stream (d : Device) (source : UInt32) (len : Nat) (sink : UInt32) (room : Nat) :
    StreamsExactly d (d.stream source len sink room) source len sink room := by
  have fed := (rowsPassing_le d.rowLimit len room).1
  rw [rowsPassing_rowLimit] at fed
  constructor
  · intro positive feeds fits apart
    have streamed : d.stream source len sink room =
        { d with
          memory := multiply d.active (source.toNat - d.profile.busBase.toNat) len
            (sink.toNat - d.profile.busBase.toNat) (d.rowsDue len room) d.memory
          rowsStreamed := d.rowsStreamed + d.rowsDue len room } := by
      unfold stream
      dsimp only
      rw [rowsPassing_rowLimit, if_neg (by omega), offset?_of_reaches feeds, offset?_of_reaches fits]
    have below := feeds.1
    have under := fits.1
    rw [streamed]
    refine ⟨⟨?_, ?_, size_multiply ..⟩, rfl⟩
    · intro i c j passes
      exact results_multiply fed (by omega) passes c j
    · intro i outside
      exact byte_multiply_outside d.active _ len d.memory outside
  · intro nothing
    have same : d.stream source len sink room = d := by
      unfold stream
      dsimp only
      rw [rowsPassing_rowLimit]
      rcases nothing with none | outside | outside
      · rw [if_pos none]
      · rw [offset?_of_not_reaches outside, ite_self]
      · rw [offset?_of_not_reaches outside]
        cases d.offset? source len <;> exact ite_self d
    rw [same]
    exact ⟨rfl, rfl⟩

section Writes

variable {d : Device}

/-- Inputs that are handed over to be executed stream into the drain, which is gone after it. -/
theorem write_feed {pair : Dispatchers} {drain : Drain} {value : UInt32} (streams : d.profile.Streams pair)
    (executes : d.command = d.profile.block.execute) (armed : d.drain = some drain)
    (go : value &&& pair.flags.go ≠ 0) :
    d.write (pair.commitOffset .read) value =
      { d with reader.descriptor.control := value, drain := none }.stream d.reader.descriptor.readAddress
        d.reader.descriptor.length.toNat drain.sink drain.length.toNat := by
  have notLoad : d.command ≠ d.profile.block.loadWeights := by
    rw [executes, streams.execute, streams.loadWeights]
    decide
  have written := write_lastWord streams rfl .read d.reader value
  have fed := commit_read streams rfl { d.reader with descriptor.control := value } go
  exact (written.trans fed).trans (feed_inputs (d := { d with reader.descriptor.control := value }) notLoad executes
    armed _ _)

/-- What is handed to the engine that reads streams into the drain. -/
theorem streamsExactly_feed {pair : Dispatchers} {drain : Drain} {value : UInt32} (streams : d.profile.Streams pair)
    (executes : d.command = d.profile.block.execute) (armed : d.drain = some drain)
    (go : value &&& pair.flags.go ≠ 0) :
    (d.write (pair.commitOffset .read) value).drain = none ∧
    StreamsExactly d (d.write (pair.commitOffset .read) value) d.reader.descriptor.readAddress
      d.reader.descriptor.length.toNat drain.sink drain.length.toNat := by
  have law := ({ d with reader.descriptor.control := value, drain := none } : Device).streamsExactly_stream
    d.reader.descriptor.readAddress d.reader.descriptor.length.toNat drain.sink drain.length.toNat
  rw [write_feed streams executes armed go]
  obtain ⟨memory, rowsStreamed, streamed, -⟩ :=
    ({ d with reader.descriptor.control := value, drain := none } : Device).stream_eq d.reader.descriptor.readAddress
      d.reader.descriptor.length.toNat drain.sink drain.length.toNat
  refine ⟨by rw [streamed], ?_⟩
  exact ⟨law.passes, law.idles⟩

/-- Both halves of the engine inside the control block started at once are a stream, but for the status. -/
theorem startIntegrated_executes (d : Device) (dma : IntegratedDma) {value : UInt32}
    (executes : d.command = d.profile.block.execute)
    (starts : value &&& (IntegratedDma.startRead ||| IntegratedDma.startWrite) =
      IntegratedDma.startRead ||| IntegratedDma.startWrite) :
    ∃ status status', d.startIntegrated dma value =
      { ({ d with integratedStatus := status } : Device).stream (d.word dma.readAddress)
          (4 * (d.word dma.readLength).toNat) (d.word dma.writeAddress)
          (4 * (value &&& IntegratedDma.lengthMask).toNat) with integratedStatus := status' } := by
  refine ⟨d.integratedStatus &&& ~~~IntegratedDma.doneMask, ?_⟩
  unfold startIntegrated
  dsimp only
  rw [if_neg (not_not_intro starts), if_pos executes]
  split
  · exact ⟨_, rfl⟩
  · exact ⟨_, rfl⟩

/-- A word that is not the row count leaves as many rows due as there were. -/
theorem rowsDue_keep {offset : Nat} (value : UInt32) (len room : Nat)
    (apart : ∀ word, d.profile.block.rowCount = some word → offset ≠ d.profile.block.offset word) :
    (d.keep offset value).rowsDue len room = d.rowsDue len room := by
  have profile : (d.keep offset value).profile = d.profile := rfl
  unfold rowsDue
  rw [profile]
  cases counts : d.profile.block.rowCount with
  | none => rfl
  | some word =>
    dsimp only
    rw [word_keep d value (apart word counts)]

theorem write_writeControl {dma : IntegratedDma} (shipped : d.profile ∈ Profile.all)
    (has : d.profile.integrated = some dma) (value : UInt32) :
    d.write (d.profile.block.offset dma.writeControl) value =
      (d.keep (d.profile.block.offset dma.writeControl) value).startIntegrated dma value := by
  obtain ⟨legacy, -⟩ := Profile.legacy_of_integrated shipped has
  obtain rfl : ⟨2, 3, 4, 5⟩ = dma := Option.some.inj ((congrArg Profile.integrated legacy).symm.trans has)
  have named : d.profile.register (d.profile.block.offset 5) = .writeControl := by
    rw [legacy]
    rfl
  rw [write, named]
  dsimp only
  rw [has]

/-- An engine inside the control block streams what its other registers say. -/
theorem streamsExactly_start {dma : IntegratedDma} {value : UInt32} (shipped : d.profile ∈ Profile.all)
    (has : d.profile.integrated = some dma) (executes : d.command = d.profile.block.execute)
    (starts : value &&& (IntegratedDma.startRead ||| IntegratedDma.startWrite) =
      IntegratedDma.startRead ||| IntegratedDma.startWrite) :
    StreamsExactly d (d.write (d.profile.block.offset dma.writeControl) value) (d.word dma.readAddress)
      (4 * (d.word dma.readLength).toNat) (d.word dma.writeAddress)
      (4 * (value &&& IntegratedDma.lengthMask).toNat) := by
  have written := write_writeControl shipped has value
  obtain ⟨legacy, -⟩ := Profile.legacy_of_integrated shipped has
  obtain rfl : ⟨2, 3, 4, 5⟩ = dma := Option.some.inj ((congrArg Profile.integrated legacy).symm.trans has)
  have apart : ∀ index, index ≠ 5 → d.profile.block.offset 5 ≠ d.profile.block.offset index := by
    intro index other
    unfold ControlBlock.offset
    omega
  have due : ∀ len room, (d.keep (d.profile.block.offset 5) value).rowsDue len room = d.rowsDue len room := by
    intro len room
    refine rowsDue_keep value len room fun word counts => apart word ?_
    rw [legacy] at counts
    rintro rfl
    nomatch counts
  obtain ⟨status, status', streamed⟩ := (d.keep (d.profile.block.offset 5) value).startIntegrated_executes
    ⟨2, 3, 4, 5⟩ executes starts
  rw [word_keep d value (apart 2 (by decide)), word_keep d value (apart 3 (by decide)),
    word_keep d value (apart 4 (by decide))] at streamed
  have law := ({ d.keep (d.profile.block.offset 5) value with integratedStatus := status } :
    Device).streamsExactly_stream (d.word 2) (4 * (d.word 3).toNat) (d.word 4)
      (4 * (value &&& IntegratedDma.lengthMask).toNat)
  rw [written, streamed]
  dsimp only
  constructor
  · rw [← due]
    exact law.passes
  · rw [← due]
    exact law.idles

end Writes

/-- A device that is to execute streams whatever is handed to the engine that reads into the armed drain, which is
gone after it, and an engine inside the control block streams what its own registers say, row by row: the elements of
a row in are multiplied by the weights in use to those of the row out. -/
theorem rows_streamed_exactly (d : Device) (shipped : d.profile ∈ Profile.all)
    (executes : d.command = d.profile.block.execute) (value : UInt32) :
    (∀ pair drain, d.profile.dispatchers = some pair → d.drain = some drain → value &&& pair.flags.go ≠ 0 →
      (d.write (pair.commitOffset .read) value).drain = none ∧
      StreamsExactly d (d.write (pair.commitOffset .read) value) d.reader.descriptor.readAddress
        d.reader.descriptor.length.toNat drain.sink drain.length.toNat) ∧
    ∀ dma, d.profile.integrated = some dma →
      value &&& (IntegratedDma.startRead ||| IntegratedDma.startWrite) =
        IntegratedDma.startRead ||| IntegratedDma.startWrite →
      StreamsExactly d (d.write (d.profile.block.offset dma.writeControl) value) (d.word dma.readAddress)
        (4 * (d.word dma.readLength).toNat) (d.word dma.writeAddress)
        (4 * (value &&& IntegratedDma.lengthMask).toNat) := by
  constructor
  · intro pair drain streaming armed go
    exact streamsExactly_feed (Profile.streams_of_shipped shipped streaming) executes armed go
  · intro dma has starts
    exact streamsExactly_start shipped has executes starts

/-- A feed of three rows and three bytes more into room for almost five, of which the row count lets two pass, and an
engine inside the control block that is given four rows and has room for two and a half. -/
theorem two_rows_streamed :
    let memory := (Memory.zeroed 0x400).store 0x21 [3, 250]
    let d : Device := { fresh .hpsMsgdma memory with
      command := 1
      registers := Sparse.empty.set 0x30018 2
      reader := ⟨0, ⟨0x20000020, 0, 27, 0⟩⟩
      drain := some ⟨0x20000100, 159⟩
      active := .asymmetric 0 }
    let legacy : Device := { fresh .niosLegacy memory with
      command := 3
      registers := (((Sparse.empty.set 0x30018 5).set 0x30008 0x20000020).set 0x3000c 9).set 0x30010 0x20000100
      active := .asymmetric 0 }
    let fed := d.write 0x3104c 0x80000000
    let ran := legacy.write 0x30014 0x30014
    (d.profile ∈ Profile.all ∧ d.command = d.profile.block.execute) ∧
      (legacy.profile ∈ Profile.all ∧ legacy.command = legacy.profile.block.execute) ∧
      (fed.drain = none ∧ Streamed d.active 0x20 0x100 2 memory fed.memory ∧ fed.rowsStreamed = 2) ∧
      Streamed legacy.active 0x20 0x100 2 memory ran.memory ∧ ran.rowsStreamed = 2 := by
  intro memory d legacy fed ran
  have shipped : d.profile ∈ Profile.all ∧ legacy.profile ∈ Profile.all := by decide
  obtain ⟨drained, law⟩ := (d.rows_streamed_exactly shipped.1 rfl 0x80000000).1 _ _ rfl rfl (by decide)
  have law : StreamsExactly d fed 0x20000020 27 0x20000100 159 := law
  have law' := (legacy.rows_streamed_exactly shipped.2 rfl 0x30014).2 _ rfl (by decide)
  have words : legacy.word 2 = 0x20000020 ∧ legacy.word 3 = 9 ∧ legacy.word 4 = 0x20000100 := by decide
  have law' : StreamsExactly legacy ran (legacy.word 2) (4 * (legacy.word 3).toNat) (legacy.word 4) 80 := law'
  rw [words.1, words.2.1, words.2.2] at law'
  have due : d.rowsDue 27 159 = 2 := by decide
  have due' : legacy.rowsDue (4 * (9 : UInt32).toNat) 80 = 2 := by decide
  have places : ∀ p ∈ Profile.all, (0x20000020 : UInt32).toNat - p.busBase.toNat = 0x20 ∧
      (0x20000100 : UInt32).toNat - p.busBase.toNat = 0x100 := by decide
  refine ⟨⟨shipped.1, rfl⟩, ⟨shipped.2, rfl⟩, ⟨drained, ?_⟩, ?_⟩
  · have streamed := law.passes (by decide) (by decide) (by decide) (by decide)
    obtain ⟨source, sink⟩ := places _ shipped.1
    rw [due, source, sink] at streamed
    exact streamed
  · have streamed := law'.passes (by decide) (by decide) (by decide) (by decide)
    obtain ⟨source, sink⟩ := places _ shipped.2
    rw [due', source, sink] at streamed
    exact streamed

end Device

end Systolic
