import Systolic.Proofs.Session

namespace Systolic

open Sequencer Program

namespace Device

/-- Multiplies the matrix at one place of memory and puts the product at another. -/
def multiplyAt (weights : Operand) (source sink : Nat) (m : Memory) : Memory :=
  m.store sink (Wire.outputs (Wire.ofInputs (m.block source 64) * weights)).toList

variable {weights : Operand} {source sink : Nat}

theorem multiplyBlock_whole (m : Memory) {count i : Nat} (whole : i < count) :
    multiplyBlock weights source (count * 64) sink (8 * count) m i =
      multiplyAt weights (source + 64 * i) (sink + 256 * i) m := by
  have feed : inputBlock m source (count * 64) i = m.block (source + 64 * i) 64 := inputBlock_whole (by omega)
  have all : 32 * min 8 (8 * count - 8 * i) = 256 := by omega
  have taken : ∀ results : Vector UInt8 256, results.toList.take 256 = results.toList := by
    intro results
    exact List.take_of_length_le (Nat.le_of_eq results.length_toList)
  simp only [multiplyBlock, multiplyAt, feed, all, taken]

/-- Whole matrices are multiplied one after the other, and none of them asks how many there are. -/
theorem multiply_whole (m : Memory) (count : Nat) :
    multiply weights source (count * 64) sink (8 * count) m =
      (List.range count).foldl (fun m i => multiplyAt weights (source + 64 * i) (sink + 256 * i) m) m := by
  have blocks : (8 * count + 7) / 8 = count := by omega
  have fold : ∀ k, k ≤ count →
      (List.range k).foldl (multiplyBlock weights source (count * 64) sink (8 * count)) m =
        (List.range k).foldl (fun m i => multiplyAt weights (source + 64 * i) (sink + 256 * i) m) m := by
    intro k within
    induction k with
    | zero => rw [List.range_zero, List.foldl_nil, List.foldl_nil]
    | succ k ih =>
      rw [List.range_succ, List.foldl_append, List.foldl_append, ih (by omega), List.foldl_cons, List.foldl_nil,
        List.foldl_cons, List.foldl_nil, multiplyBlock_whole _ within]
  unfold multiply
  rw [blocks]
  exact fold count (Nat.le_refl count)

/-- A multiplication of some matrices and then of those after them is one of all of them, also where the results of
the first fall on matrices that are still to be read. -/
theorem multiply_add (m : Memory) (a b : Nat) :
    multiply weights source ((a + b) * 64) sink (8 * (a + b)) m =
      multiply weights (source + a * 64) (b * 64) (sink + a * 256) (8 * b)
        (multiply weights source (a * 64) sink (8 * a) m) := by
  have place : ∀ i, source + 64 * (a + i) = source + a * 64 + 64 * i ∧
      sink + 256 * (a + i) = sink + a * 256 + 256 * i := by
    intro i
    omega
  simp only [multiply_whole, List.range_add, List.foldl_append, List.foldl_map, place]

/-- Where the second part of a range begins. -/
theorem toNat_past {bus : UInt32} {len : Nat} (fits : bus.toNat + len < UInt32.size) :
    (bus + UInt32.ofNat len).toNat = bus.toNat + len := by
  rw [UInt32.toNat_add, UInt32.toNat_ofNat_of_lt' (by omega)]
  exact Nat.mod_eq_of_lt fits

section Reaches

variable {d : Device} {bus : UInt32} {len more : Nat}

theorem Reaches.first (reaches : d.Reaches bus (len + more)) : d.Reaches bus len := by
  obtain ⟨above, inside⟩ := reaches
  exact ⟨above, by omega⟩

theorem Reaches.rest (reaches : d.Reaches bus (len + more)) (fits : bus.toNat + len < UInt32.size) :
    d.Reaches (bus + UInt32.ofNat len) more := by
  obtain ⟨above, inside⟩ := reaches
  have past := toNat_past fits
  exact ⟨by omega, by omega⟩

end Reaches

end Device

/-- Runs inputs through and waits until all of their results are there. -/
def Sequencer.batch (inputs outputs : UInt32) (count : Nat) : SequencerM WaitReport := do
  execute inputs outputs count
  finish

/-- A device after inputs were run through, and the sequencer that ran them: at rest again, with the products in memory
and the weights as they were. -/
structure Sequencer.Batched (p : Profile) (d : Device) (inputs outputs : UInt32) (count : Nat) (s' : Sequencer)
    (d' : Device) : Prop where
  ready : Ready p s' d'
  active : d'.active = d.active
  memory : d'.memory = Device.multiply d.active (inputs.toNat - p.busBase.toNat) (count * 64)
    (outputs.toNat - p.busBase.toNat) (8 * count) d.memory
  rows : d'.rowsStreamed = d.rowsStreamed + 8 * count

section Batches

variable {p : Profile} {pair : Dispatchers} {s : Sequencer} {d : Device} {inputs outputs : UInt32}

theorem Sequencer.ensures_batch (streams : p.Streams pair) (ready : Ready p s d) {count : Nat} (positive : 0 < count)
    (fits : count * 256 < UInt32.size) (source : d.Reaches inputs (count * 64))
    (sink : d.Reaches outputs (count * 256)) :
    s.Ensures d (batch inputs outputs count) fun _ => Batched p d inputs outputs count := by
  refine (ensures_execute streams ready positive fits (Device.offset?_of_reaches source)
    (Device.offset?_of_reaches sink)).bind ?_
  rintro _ s₁ d₁ ⟨sequencer, executing, device, low, active, memory, rows⟩
  refine (ensures_finish streams sequencer executing).mono ?_
  rintro _ s₂ _ ⟨kept, idle, rfl⟩
  rw [ready.device] at memory
  exact ⟨⟨kept, device, idle, low⟩, active, memory, rows⟩

/-- A batch run in two parts is a batch all the same. -/
theorem Sequencer.ensures_split (streams : p.Streams pair) (ready : Ready p s d) {a b : Nat} (someFirst : 0 < a)
    (someRest : 0 < b) (fits : (a + b) * 256 < UInt32.size) (source : d.Reaches inputs (a * 64 + b * 64))
    (sink : d.Reaches outputs (a * 256 + b * 256)) (addressable : inputs.toNat + (a * 64 + b * 64) ≤ UInt32.size)
    (addressable' : outputs.toNat + (a * 256 + b * 256) ≤ UInt32.size) :
    s.Ensures d (do
      let _ ← batch inputs outputs a
      batch (inputs + UInt32.ofNat (a * 64)) (outputs + UInt32.ofNat (a * 256)) b) fun _ =>
        Batched p d inputs outputs (a + b) := by
  have counts : a * 256 < UInt32.size ∧ b * 256 < UInt32.size := by omega
  have input : inputs.toNat + a * 64 < UInt32.size := by omega
  have output : outputs.toNat + a * 256 < UInt32.size := by omega
  refine (ensures_batch streams ready someFirst counts.1 source.first sink.first).bind ?_
  rintro _ s₁ d₁ first
  have size : d₁.memory.size = d.memory.size := by rw [first.memory, Device.size_multiply]
  have reaches : ∀ {bus len}, d.Reaches bus len → d₁.Reaches bus len := by
    intro bus len inside
    unfold Device.Reaches at inside ⊢
    rw [first.ready.device, size, ← ready.device]
    exact inside
  refine (ensures_batch streams first.ready someRest counts.2 (reaches (source.rest input))
    (reaches (sink.rest output))).mono ?_
  rintro _ s₂ d₂ second
  have above : p.busBase.toNat ≤ inputs.toNat ∧ p.busBase.toNat ≤ outputs.toNat := by
    rw [← ready.device]
    exact ⟨source.1, sink.1⟩
  have shift : inputs.toNat + a * 64 - p.busBase.toNat = inputs.toNat - p.busBase.toNat + a * 64 ∧
      outputs.toNat + a * 256 - p.busBase.toNat = outputs.toNat - p.busBase.toNat + a * 256 := by omega
  refine ⟨second.ready, second.active.trans first.active, ?_, ?_⟩
  · rw [second.memory, first.active, first.memory, Device.toNat_past input, Device.toNat_past output, shift.1, shift.2]
    exact (Device.multiply_add d.memory a b).symm
  · rw [second.rows, first.rows]
    omega

/-- A batch may be split. From any state with nothing going on, all of the inputs in one run and the same inputs in
two runs one after the other both go through, and leave the same memory, the same weights in use and the same count
of rows, eight more for each input. Results may fall on inputs, also on those that are still to be read. -/
theorem Reach.batches_split {size : Nat} {h : History} (shipped : p ∈ Profile.all)
    (streams : p.dispatchers = some pair) (reach : Reach p size h s d) (idle : s.activity = .idle) {a b : Nat}
    (someFirst : 0 < a) (someRest : 0 < b) (fits : (a + b) * 256 < UInt32.size)
    (source : d.Reaches inputs ((a + b) * 64)) (sink : d.Reaches outputs ((a + b) * 256))
    (addressable : inputs.toNat + (a + b) * 64 ≤ UInt32.size)
    (addressable' : outputs.toNat + (a + b) * 256 ≤ UInt32.size) (timing : Timing) (j : Journal) :
    ∃ r s₁ d₁ j₁ r' s₂ d₂ j₂,
      (s.perform (batch inputs outputs (a + b))).runOn (Device.board timing) d j = ⟨some (.ok r, s₁), d₁, j₁⟩ ∧
      (s.perform (do
        let _ ← batch inputs outputs a
        batch (inputs + UInt32.ofNat (a * 64)) (outputs + UInt32.ofNat (a * 256)) b)).runOn (Device.board timing) d j =
          ⟨some (.ok r', s₂), d₂, j₂⟩ ∧
      d₁.memory = d₂.memory ∧ d₁.active = d₂.active ∧ s₁.activity = s₂.activity ∧
      d₁.rowsStreamed = d₂.rowsStreamed ∧ d₁.rowsStreamed = d.rowsStreamed + 8 * (a + b) := by
  have layout := Profile.streams_of_shipped shipped streams
  have coupled := reach.coupled layout
  have ready : Ready p s d := ⟨coupled.sequencer, coupled.device, idle, coupled.latch⟩
  obtain ⟨r, s₁, d₁, j₁, run, whole⟩ := ensures_batch layout ready (by omega) fits source sink timing j
  rw [Nat.add_mul] at source sink addressable addressable'
  obtain ⟨r', s₂, d₂, j₂, parts, split⟩ := ensures_split layout ready someFirst someRest fits source sink addressable
    addressable' timing j
  refine ⟨r, s₁, d₁, j₁, r', s₂, d₂, j₂, run, parts, ?_, ?_, ?_, ?_, whole.rows⟩
  · rw [whole.memory, split.memory]
  · rw [whole.active, split.active]
  · rw [whole.ready.idle, split.ready.idle]
  · rw [whole.rows, split.rows]

end Batches

/-- Three inputs in one run, and one and then two of them, with results that fall on inputs from the first one on. -/
theorem overlapping_batch_split :
    ∃ h s d, Reach .hpsMsgdma 0x10000 h s d ∧ s.activity = .idle ∧ d.active = .asymmetric 5 ∧
      ∃ r s₁ d₁ j₁ r' s₂ d₂ j₂,
        (s.perform (batch 0x20000000 0x20000020 3)).runOn (Device.board (.steady 0)) d .empty =
          ⟨some (.ok r, s₁), d₁, j₁⟩ ∧
        (s.perform (do
          let _ ← batch 0x20000000 0x20000020 1
          batch 0x20000040 0x20000120 2)).runOn (Device.board (.steady 0)) d .empty = ⟨some (.ok r', s₂), d₂, j₂⟩ ∧
        d₁.memory = d₂.memory ∧ d₁.active = d₂.active ∧ s₁.activity = s₂.activity ∧
        d₁.rowsStreamed = d₂.rowsStreamed ∧ d₁.rowsStreamed = d.rowsStreamed + 8 * (1 + 2) := by
  have shipped : Profile.hpsMsgdma ∈ Profile.all := List.mem_cons_self
  have layout := Profile.streams_hpsMsgdma
  let m := (Memory.zeroed 0x10000).store 0x8000 (Wire.weightBatch [.asymmetric 5])
  let d := Device.fresh .hpsMsgdma m
  have size : m.size = 0x10000 := Memory.size_store ..
  have staged : Reach .hpsMsgdma 0x10000 [] (start .hpsMsgdma .default) d := by
    refine (Reach.fresh .default).store ?_
    unfold Memory.Holds
    rw [Wire.length_weightBatch]
    decide
  have loading : (start .hpsMsgdma .default).Ensures d (Call.loadWeights 0x20008000 1).issue fun _ s' d' =>
      Ready .hpsMsgdma s' d' ∧ d'.memory = m ∧ d'.active = .asymmetric 5 := by
    have source : d.offset? 0x20008000 (1 * 64) = some 0x8000 := by
      refine (Device.offset?_of_reaches ⟨by decide, ?_⟩).trans (by decide)
      rw [show d.memory.size = _ from size]
      decide
    have block : m.block 0x8000 64 = Wire.weights (.asymmetric 5) :=
      Memory.block_store (.zeroed 0x10000) 0x8000 Wire.weights [.asymmetric 5] (k := 0) (by decide)
    show (start .hpsMsgdma .default).Ensures d (Answer.report <$> loadWeights 0x20008000 1) _
    rw [map_eq_pure_bind]
    refine (ensures_loadWeights layout ⟨rfl, rfl, rfl, rfl⟩ (by decide) (by decide) source).bind ?_
    rintro _ s' d' ⟨ready, memory, -, active⟩
    refine (ensures_pure s' d' _).mono ?_
    rintro _ _ _ ⟨-, rfl, rfl⟩
    refine ⟨ready, memory, active.trans ?_⟩
    exact (congrArg Wire.ofWeights block).trans (Wire.ofWeights_weights _)
  obtain ⟨answer, s', d', j', ran, ready, memory, active⟩ := loading (.steady 0) .empty
  have loaded := staged.call (.loadWeights 0x20008000 1) ran
  have reaches : d'.Reaches 0x20000000 ((1 + 2) * 64) ∧ d'.Reaches 0x20000020 ((1 + 2) * 256) := by
    unfold Device.Reaches
    rw [ready.device, memory, size]
    decide
  exact ⟨_, s', d', loaded, ready.idle, active, loaded.batches_split shipped rfl ready.idle (by decide) (by decide)
    (by decide) reaches.1 reaches.2 (by decide) (by decide) (.steady 0) .empty⟩

end Systolic
