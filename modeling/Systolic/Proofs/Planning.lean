import Systolic.Proofs.Staging

namespace Systolic

open Sequencer

/-- A range of byte offsets, with no bound on how far it reaches. -/
structure Extent where
  start : Nat
  len : Nat

namespace Extent

def Has (g : Extent) (i : Nat) : Prop := g.start ≤ i ∧ i < g.start + g.len

/-- Whether no byte belongs to both. -/
def Apart (g h : Extent) : Prop := ∀ i, ¬ (g.Has i ∧ h.Has i)

theorem apart_of_ordered {g h : Extent} (ordered : h.start + h.len ≤ g.start ∨ g.start + g.len ≤ h.start) :
    g.Apart h := by
  unfold Apart Has
  intro i both
  omega

/-- Of two ranges with bytes in them that share none, one ends before the other starts. -/
theorem ordered_of_apart {g h : Extent} (positive : 0 < g.len) (positive' : 0 < h.len) (apart : g.Apart h) :
    h.start + h.len ≤ g.start ∨ g.start + g.len ≤ h.start := by
  unfold Apart Has at apart
  -- if neither ends first, the later one of the two first bytes is in both
  by_cases later : g.start ≤ h.start
  · have shared := apart h.start
    omega
  · have shared := apart g.start
    omega

end Extent

theorem pairwise_three {α : Type} {R : α → α → Prop} {a b c : α} :
    [a, b, c].Pairwise R ↔ (R a b ∧ R a c) ∧ R b c := by
  simp

def Region.extent (r : Region) : Extent := ⟨r.offset, r.len⟩

def Placement.regions (plan : Placement) : List Region := [plan.weights, plan.inputs, plan.outputs]

/-- The ranges that a layout asks for. -/
def Layout.extents (layout : Layout) (weightCount batch : Nat) : List Extent :=
  [⟨layout.weights, 64 * weightCount⟩, ⟨layout.inputs, 64 * batch⟩, ⟨layout.outputs, 256 * batch⟩]

section Addresses

variable {r : Region} {windowLen : Nat} {busBase : UInt32} {offset count each : Nat}

theorem Region.Fits.extent (fits : r.Fits windowLen busBase offset count each) : r.extent = ⟨offset, each * count⟩ := by
  have len := fits.len
  rw [Nat.mul_comm] at len
  rw [Region.extent, fits.offset, len]

/-- Every byte of a region has the bus address that it is counted to, without a carry out of 32 bits. -/
theorem Region.Fits.address (fits : r.Fits windowLen busBase offset count each) {i : Nat} (within : i < r.len) :
    (r.bus + UInt32.ofNat i).toNat = busBase.toNat + r.offset + i := by
  have bus := fits.bus
  have addressable := fits.addressable
  have whole : r.bus.toNat + i < UInt32.size := by omega
  rw [UInt32.toNat_add, UInt32.toNat_ofNat_of_lt' (by omega), Nat.mod_eq_of_lt whole, bus]

end Addresses

section Served

variable {σ α : Type} {b : Board σ} {t : σ} {q r : Region}

/-- Whether an attempt comes through on a board. -/
def Staging.Completes (b : Board σ) (t : σ) (x : Attempt α) : Prop :=
  ∀ j, ∃ a t', x.run.runOn b t j = ⟨some (.ok a), t', j⟩

/-- Whether all of a range lies in a region. -/
def Region.Spans (r : Region) (offset len : Nat) : Prop := r.offset ≤ offset ∧ offset + len ≤ r.stop

/-- A board on which nothing fails that stays within a region, whatever part `q` of it is meant. -/
structure Region.Served (r : Region) (b : Board σ) (t : σ) : Prop where
  weights : ∀ (q : Region) (ms : List Operand), 64 * ms.length ≤ q.len → r.Spans q.offset (64 * ms.length) →
    Staging.Completes b t (Staging.writeWeights (b.memory t).size q ms)
  inputs : ∀ (q : Region) (ms : List Operand), 64 * ms.length ≤ q.len → r.Spans q.offset (64 * ms.length) →
    Staging.Completes b t (Staging.writeInputs (b.memory t).size q ms)
  clear : ∀ q : Region, r.Spans q.offset q.len → Staging.Completes b t (Staging.clear (b.memory t).size q)
  outputs : ∀ (q : Region) (count : Nat), 256 * count ≤ q.len → r.Spans q.offset (256 * count) →
    Staging.Completes b t (Staging.readOutputs (b.memory t).size q count)

theorem Region.Spans.inside {offset len size : Nat} (spans : r.Spans offset len) (inside : r.offset + r.len ≤ size) :
    offset + len ≤ size := Nat.le_trans spans.2 inside

theorem Staging.completes_place {bytes : List UInt8} {size : Nat} (room : bytes.length ≤ q.len)
    (inside : q.offset + bytes.length ≤ size) : Completes b t (place size q bytes) := by
  intro j
  rw [run_place room inside]
  exact ⟨(), _, rfl⟩

theorem Region.served (inside : r.offset + r.len ≤ (b.memory t).size) : r.Served b t where
  weights q ms room spans := by
    rw [← Wire.length_weightBatch] at room spans
    exact Staging.completes_place room (spans.inside inside)
  inputs q ms room spans := by
    rw [← Wire.length_inputBatch] at room spans
    exact Staging.completes_place room (spans.inside inside)
  clear q spans j := by
    rw [Staging.run_clear (spans.inside inside)]
    exact ⟨(), _, rfl⟩
  outputs q count room spans j := by
    rw [Staging.run_readOutputs room (spans.inside inside)]
    exact ⟨_, _, rfl⟩

end Served

section Plans

variable {layout : Layout} {windowLen : Nat} {busBase : UInt32} {weightCount batch : Nat} {plan : Placement}

theorem Placement.Fits.extents (fits : plan.Fits layout windowLen busBase weightCount batch) :
    plan.regions.map Region.extent = layout.extents weightCount batch := by
  simp only [regions, List.map_cons, List.map_nil, fits.weights.extent, fits.inputs.extent, fits.outputs.extent,
    Layout.extents]

/-- What holds of every region that fits holds of the regions of a plan. -/
theorem Placement.Fits.forall_regions (fits : plan.Fits layout windowLen busBase weightCount batch)
    {holds : Region → Prop} (each : ∀ (r : Region) offset count each, r.Fits windowLen busBase offset count each → holds r) :
    ∀ r ∈ plan.regions, holds r := by
  intro r among
  simp only [regions, List.mem_cons, List.not_mem_nil, or_false] at among
  rcases among with rfl | rfl | rfl
  · exact each _ _ _ _ fits.weights
  · exact each _ _ _ _ fits.inputs
  · exact each _ _ _ _ fits.outputs

theorem Placement.Fits.apart (fits : plan.Fits layout windowLen busBase weightCount batch) :
    (plan.regions.map Region.extent).Pairwise Extent.Apart := by
  have first : plan.weights.extent.Apart plan.inputs.extent := Extent.apart_of_ordered fits.weights_inputs
  have second : plan.weights.extent.Apart plan.outputs.extent := Extent.apart_of_ordered fits.weights_outputs
  have third : plan.inputs.extent.Apart plan.outputs.extent := Extent.apart_of_ordered fits.inputs_outputs
  exact pairwise_three.mpr ⟨⟨first, second⟩, third⟩

/-- A plan keeps what it was asked for: its regions are where they were to be and as long as they were to be, they lie
in the window, no two share a byte and every byte has its bus address. So nothing that is done with the plan
later can fail: not the loading and the execution that it is for, and nothing that is put into its regions or
taken from them. -/
theorem Layout.plan_sound (placed : layout.place windowLen busBase weightCount batch = .ok plan) :
    plan.regions.map Region.extent = layout.extents weightCount batch ∧
    (∀ r ∈ plan.regions, r.offset + r.len ≤ windowLen ∧
      ∀ i < r.len, (r.bus + UInt32.ofNat i).toNat = busBase.toNat + r.offset + i) ∧
    (plan.regions.map Region.extent).Pairwise Extent.Apart ∧
    (∀ (s : Sequencer) (pair : Dispatchers), s.activity = .idle → s.profile.dispatchers = some pair →
      s.Issues (loadWeights plan.weights.bus weightCount) (loadWrites s.profile pair plan.weights.bus weightCount)
        { s with lastCommand := some s.profile.block.loadWeights } ∧
      s.Issues (execute plan.inputs.bus plan.outputs.bus batch)
        (armWrites pair plan.outputs.bus batch ++ feedWrites s.profile pair plan.inputs.bus batch)
        { s with lastCommand := some s.profile.block.execute, activity := .executing batch }) ∧
    ∀ r ∈ plan.regions, ∀ (σ : Type) (b : Board σ) (t : σ), windowLen ≤ (b.memory t).size → r.Served b t := by
  obtain ⟨counts, fits⟩ := fits_of_place placed
  refine ⟨fits.extents, fits.forall_regions ?_, fits.apart, ?_, fits.forall_regions ?_⟩
  · intro r offset count each fit
    exact ⟨fit.inside, fun i within => fit.address within⟩
  · intro s pair idle streams
    have weightsLen := fits.weights.len
    have outputsLen := fits.outputs.len
    have weightsAddressable := fits.weights.addressable
    have outputsAddressable := fits.outputs.addressable
    exact ⟨issues_loadWeights _ idle streams (by omega) (by omega),
      issues_execute _ _ idle streams (by omega) (by omega)⟩
  · intro r offset count each fit σ b t reaches
    exact Region.served (Nat.le_trans fit.inside reaches)

/-- Two weight matrices and a batch of three, on a board whose memory is no longer than it has to be. -/
theorem Layout.small_plan_sound :
    let layout : Layout := ⟨0x400, 0, 0x100⟩
    let plan : Placement := ⟨⟨"weights", 0x400, 128, 0x20000400⟩, ⟨"inputs", 0, 192, 0x20000000⟩,
      ⟨"outputs", 0x100, 768, 0x20000100⟩⟩
    layout.place 0x480 0x20000000 2 3 = .ok plan ∧
      (∀ r ∈ plan.regions, r.offset + r.len ≤ 0x480 ∧
        ∀ i < r.len, (r.bus + UInt32.ofNat i).toNat = 0x20000000 + r.offset + i) ∧
      (plan.regions.map Region.extent).Pairwise Extent.Apart ∧
      (∃ ws s', (start .hpsMsgdma .default).Issues (execute 0x20000000 0x20000100 3) ws s') ∧
      ∀ r ∈ plan.regions, r.Served (Script.board (.steady 0)) (.empty 0x480) := by
  intro layout plan
  have placed : layout.place 0x480 0x20000000 2 3 = .ok plan := by cbv
  obtain ⟨-, inside, apart, runs, served⟩ := layout.plan_sound placed
  obtain ⟨-, executes⟩ := runs (start .hpsMsgdma .default) (Profile.streamingEngines .hps) rfl rfl
  refine ⟨placed, inside, apart, ⟨_, _, executes⟩, ?_⟩
  exact fun r among => served r among _ (Script.board (.steady 0)) _ (Nat.le_refl _)

/-- The region that a range of the window becomes. -/
def Extent.region (g : Extent) (name : String) (busBase : UInt32) : Region :=
  ⟨name, g.start, g.len, busBase + UInt32.ofNat g.start⟩

theorem Extent.fits_region {g : Extent} {count each : Nat} (name : String) (len : g.len = each * count)
    (inside : g.start + g.len ≤ windowLen) (addressable : busBase.toNat + g.start + g.len < UInt32.size) :
    (g.region name busBase).Fits windowLen busBase g.start count each := by
  have bus : (busBase + UInt32.ofNat g.start).toNat = busBase.toNat + g.start := by
    rw [UInt32.toNat_add, UInt32.toNat_ofNat_of_lt' (by omega)]
    exact Nat.mod_eq_of_lt (b := UInt32.size) (by omega)
  refine ⟨rfl, len.trans (Nat.mul_comm ..), inside, bus, ?_⟩
  show (busBase + UInt32.ofNat g.start).toNat + g.len < UInt32.size
  rw [bus]
  exact addressable

/-- What a plan can be made for, in numbers without bounds: some matrices of each kind, in ranges of the window
that share no byte, of which every byte, and the one past the end too, has an address of 32 bits. -/
theorem Layout.exists_plan_iff :
    (∃ plan, layout.place windowLen busBase weightCount batch = .ok plan) ↔
      (1 ≤ weightCount ∧ 1 ≤ batch) ∧
      (∀ g ∈ layout.extents weightCount batch, g.start + g.len ≤ windowLen ∧
        ∀ i ≤ g.len, busBase.toNat + g.start + i < UInt32.size) ∧
      (layout.extents weightCount batch).Pairwise Extent.Apart := by
  constructor
  · rintro ⟨plan, placed⟩
    obtain ⟨⟨someWeights, someInputs⟩, fits⟩ := fits_of_place placed
    have good : ∀ r ∈ plan.regions, r.offset + r.len ≤ windowLen ∧
        ∀ i ≤ r.len, busBase.toNat + r.offset + i < UInt32.size := by
      refine fits.forall_regions ?_
      intro r offset count each fit
      have bus := fit.bus
      have addressable := fit.addressable
      exact ⟨fit.inside, fun i within => by omega⟩
    rw [← fits.extents]
    refine ⟨⟨by omega, by omega⟩, ?_, fits.apart⟩
    intro g among
    obtain ⟨r, member, rfl⟩ := List.mem_map.mp among
    exact good r member
  · rintro ⟨⟨someWeights, someInputs⟩, good, apart⟩
    have fit : ∀ (name : String) (g : Extent) (count each : Nat), g ∈ layout.extents weightCount batch →
        g.len = each * count → (g.region name busBase).Fits windowLen busBase g.start count each := by
      intro name g count each among len
      obtain ⟨inside, addresses⟩ := good g among
      exact g.fits_region name len inside (addresses g.len (Nat.le_refl _))
    obtain ⟨⟨first, second⟩, third⟩ := pairwise_three.mp apart
    have weightsLen : 0 < 64 * weightCount := by omega
    have inputsLen : 0 < 64 * batch := by omega
    have outputsLen : 0 < 256 * batch := by omega
    have weights := fit "weights" ⟨layout.weights, 64 * weightCount⟩ weightCount 64 (by simp [extents]) rfl
    have inputs := fit "inputs" ⟨layout.inputs, 64 * batch⟩ batch 64 (by simp [extents]) rfl
    have outputs := fit "outputs" ⟨layout.outputs, 256 * batch⟩ batch 256 (by simp [extents]) rfl
    exact ⟨⟨_, _, _⟩, place_of_fits ⟨by omega, by omega⟩ ⟨rfl, rfl, rfl⟩
      ⟨weights, inputs, outputs, Extent.ordered_of_apart weightsLen inputsLen first,
        Extent.ordered_of_apart weightsLen outputsLen second, Extent.ordered_of_apart inputsLen outputsLen third⟩⟩

/-- Ranges that end with the last address there is. All their bytes lie in the window and have addresses, and
none is shared, but the end of the outputs has no address. -/
theorem Layout.last_byte_refused :
    let layout : Layout := ⟨0, 64, 128⟩
    (∀ g ∈ layout.extents 1 1, g.start + g.len ≤ 384 ∧
      ∀ i < g.len, (0xfffffe80 : UInt32).toNat + g.start + i < UInt32.size) ∧
    (layout.extents 1 1).Pairwise Extent.Apart ∧
    layout.place 384 0xfffffe80 1 1 = .error (.invalidArgument (.regionAddress "outputs")) := by
  intro layout
  have base : (0xfffffe80 : UInt32).toNat = 0xfffffe80 := rfl
  have top : UInt32.size = 0x100000000 := rfl
  refine ⟨?_, ?_, rfl⟩
  · intro g among
    simp only [layout, extents, List.mem_cons, List.not_mem_nil, or_false] at among
    rcases among with rfl | rfl | rfl <;> exact ⟨by decide, fun i within => by dsimp only at *; omega⟩
  · have first : Extent.Apart ⟨0, 64⟩ ⟨64, 64⟩ := Extent.apart_of_ordered (by decide)
    have second : Extent.Apart ⟨0, 64⟩ ⟨128, 256⟩ := Extent.apart_of_ordered (by decide)
    have third : Extent.Apart ⟨64, 64⟩ ⟨128, 256⟩ := Extent.apart_of_ordered (by decide)
    exact pairwise_three.mpr ⟨⟨first, second⟩, third⟩

end Plans

end Systolic
