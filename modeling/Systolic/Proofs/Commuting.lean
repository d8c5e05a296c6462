import Systolic.Proofs.Batches
import Systolic.Proofs.Planning

namespace Systolic

instance (g : Extent) (i : Nat) : Decidable (g.Has i) := inferInstanceAs (Decidable (_ ∧ _))

theorem Extent.Apart.within {g h g' h' : Extent} (apart : g.Apart h) (part : ∀ i, g'.Has i → g.Has i)
    (part' : ∀ i, h'.Has i → h.Has i) : g'.Apart h' := fun i both => apart i ⟨part i both.1, part' i both.2⟩

/-- New bytes for all of a range. -/
structure Patch where
  extent : Extent
  byte : Nat → UInt8

namespace Patch

def Apart (p q : Patch) : Prop := p.extent.Apart q.extent

theorem Apart.symm {p q : Patch} (apart : p.Apart q) : q.Apart p := fun i both => apart i both.symm

def ofBytes (offset : Nat) (bytes : List UInt8) : Patch := ⟨⟨offset, bytes.length⟩, fun i => bytes[i - offset]?.getD 0⟩

def zero (g : Extent) : Patch := ⟨g, fun _ => 0⟩

end Patch

namespace Memory

/-- What patches make of a memory. It says of each patch that it is there as a whole and nothing about when it
was made, so that it can only be had of patches that do not get into each other's way. -/
structure Patched (m : Memory) (ps : List Patch) (m' : Memory) : Prop where
  size : m'.size = m.size
  inside : ∀ p ∈ ps, ∀ i, p.extent.Has i → m'.byte i = p.byte i
  outside : ∀ i, (∀ p ∈ ps, ¬ p.extent.Has i) → m'.byte i = m.byte i

namespace Patched

variable {m m' m'' : Memory} {p : Patch} {ps qs : List Patch}

theorem nil (m : Memory) : m.Patched [] m := ⟨rfl, nofun, fun _ _ => rfl⟩

/-- The patches after the first leave it as it is if they are apart from it. -/
theorem cons (first : m.Patched [p] m') (rest : m'.Patched ps m'') (apart : ∀ q ∈ ps, p.Apart q) :
    m.Patched (p :: ps) m'' := by
  refine ⟨rest.size.trans first.size, ?_, ?_⟩
  · intro q among i has
    rcases List.mem_cons.mp among with rfl | later
    · have kept : m''.byte i = m'.byte i := rest.outside i fun q' later has' => apart q' later i ⟨has, has'⟩
      exact kept.trans (first.inside q (List.mem_singleton_self q) i has)
    · exact rest.inside q later i has
  · intro i out
    obtain ⟨outFirst, outRest⟩ := List.forall_mem_cons.mp out
    have kept : m'.byte i = m.byte i := first.outside i (List.forall_mem_singleton.mpr outFirst)
    exact (rest.outside i outRest).trans kept

theorem perm (patched : m.Patched ps m') (same : ps.Perm qs) : m.Patched qs m' :=
  ⟨patched.size, fun p among => patched.inside p (same.mem_iff.mpr among),
    fun i out => patched.outside i fun p among => out p (same.mem_iff.mp among)⟩

theorem unique (patched : m.Patched ps m') (again : m.Patched ps m'') : m' = m'' := by
  refine Memory.ext (patched.size.trans again.size.symm) ?_
  intro i
  by_cases some : ∃ p ∈ ps, p.extent.Has i
  · obtain ⟨p, among, has⟩ := some
    exact (patched.inside p among i has).trans (again.inside p among i has).symm
  · have out : ∀ p ∈ ps, ¬ p.extent.Has i := fun p among has => some ⟨p, among, has⟩
    exact (patched.outside i out).trans (again.outside i out).symm

end Patched

theorem patched_store (m : Memory) (offset : Nat) (bytes : List UInt8) :
    m.Patched [.ofBytes offset bytes] (m.store offset bytes) := by
  refine ⟨size_store .., List.forall_mem_singleton.mpr ?_, ?_⟩
  · intro i has
    have within : offset ≤ i ∧ i < offset + bytes.length := has
    have index : i - offset < bytes.length := by omega
    have stored : bytes[i - offset]? = some bytes[i - offset] := List.getElem?_eq_getElem index
    rw [byte_store, if_pos within.1]
    show bytes[i - offset]?.getD (m.byte i) = bytes[i - offset]?.getD 0
    rw [stored]
    rfl
  · intro i out
    have apart : ¬ (offset ≤ i ∧ i < offset + bytes.length) := out _ (List.mem_singleton_self _)
    exact byte_store_outside m (by omega)

theorem patched_clear (m : Memory) (g : Extent) : m.Patched [.zero g] (m.clear g.start g.len) := by
  refine ⟨rfl, List.forall_mem_singleton.mpr ?_, ?_⟩
  · intro i has
    rw [byte_clear]
    exact if_pos has
  · intro i out
    rw [byte_clear]
    exact if_neg (out _ (List.mem_singleton_self _))

/-- Of a batch that is in memory as a patch every matrix is in its block. -/
theorem Patched.block {m m' : Memory} {ps : List Patch} (patched : m.Patched ps m') {offset : Nat}
    {encode : Operand → Vector UInt8 64} {ms : List Operand}
    (among : .ofBytes offset (ms.flatMap fun a => (encode a).toList) ∈ ps) {i : Nat} (bound : i < ms.length) :
    m'.block (offset + 64 * i) 64 = encode ms[i] := by
  have length := length_flatMap_toList encode ms
  rw [← block_store m offset encode ms bound]
  refine block_congr fun k after before => ?_
  have has : (Patch.ofBytes offset (ms.flatMap fun a => (encode a).toList)).extent.Has k := by
    constructor
    · exact Nat.le_trans (Nat.le_add_right ..) after
    · show k < offset + (ms.flatMap fun a => (encode a).toList).length
      omega
  have stored := (patched_store m offset _).inside _ (List.mem_singleton_self _) k has
  exact (patched.inside _ among k has).trans stored.symm

end Memory

namespace Staging

/-- What is done to a region of a plan before a run. -/
inductive Step where
  | weights (ms : List Operand)
  | inputs (ms : List Operand)
  | clear

namespace Step

def attempt (size : Nat) (plan : Placement) : Step → Attempt Unit
  | weights ms => writeWeights size plan.weights ms
  | inputs ms => writeInputs size plan.inputs ms
  | clear => Staging.clear size plan.outputs

def region (plan : Placement) : Step → Region
  | weights _ => plan.weights
  | inputs _ => plan.inputs
  | clear => plan.outputs

def patch (plan : Placement) : Step → Patch
  | weights ms => .ofBytes plan.weights.offset (Wire.weightBatch ms)
  | inputs ms => .ofBytes plan.inputs.offset (Wire.inputBatch ms)
  | clear => .zero plan.outputs.extent

/-- Whether the region has room for what is put into it. -/
def Room (plan : Placement) : Step → Prop
  | weights ms => 64 * ms.length ≤ plan.weights.len
  | inputs ms => 64 * ms.length ≤ plan.inputs.len
  | clear => True

variable {plan : Placement} {step : Step}

theorem region_mem : step.region plan ∈ plan.regions := by
  cases step <;> simp [region, Placement.regions]

/-- A step that finds room stays in its region. -/
theorem Room.within (room : step.Room plan) (i : Nat) (has : (step.patch plan).extent.Has i) :
    (step.region plan).extent.Has i := by
  have batch : ∀ (r : Region) (bytes : List UInt8), bytes.length ≤ r.len →
      (Patch.ofBytes r.offset bytes).extent.Has i → r.extent.Has i := by
    intro r bytes short has
    exact ⟨has.1, Nat.lt_of_lt_of_le has.2 (Nat.add_le_add_left short _)⟩
  cases step with
  | weights ms => exact batch _ _ (by rwa [Wire.length_weightBatch]) has
  | inputs ms => exact batch _ _ (by rwa [Wire.length_inputBatch]) has
  | clear => exact has

end Step

def steps (size : Nat) (plan : Placement) (order : List Step) : Attempt Unit :=
  order.forM (Step.attempt size plan)

section Runs

variable {σ : Type} {b : Board σ} {t : σ} {plan : Placement} {size : Nat}

theorem Step.run {step : Step} (room : step.Room plan) (inside : (step.region plan).stop ≤ size) (j : Journal) :
    ∃ m, (step.attempt size plan).run.runOn b t j = ⟨some (.ok ()), b.withMemory t m, j⟩ ∧
      (b.memory t).Patched [step.patch plan] m := by
  have batch : ∀ (r : Region) (bytes : List UInt8), bytes.length ≤ r.len → r.stop ≤ size →
      ∃ m, (place size r bytes).run.runOn b t j = ⟨some (.ok ()), b.withMemory t m, j⟩ ∧
        (b.memory t).Patched [.ofBytes r.offset bytes] m := by
    intro r bytes short inside
    rw [run_place short (Nat.le_trans (Nat.add_le_add_left short _) inside)]
    exact ⟨_, rfl, Memory.patched_store ..⟩
  cases step with
  | weights ms => exact batch _ _ (by rwa [Wire.length_weightBatch]) inside
  | inputs ms => exact batch _ _ (by rwa [Wire.length_inputBatch]) inside
  | clear =>
    have outputsInside : plan.outputs.stop ≤ size := inside
    refine ⟨_, ?_, Memory.patched_clear (b.memory t) plan.outputs.extent⟩
    show (Staging.clear size plan.outputs).run.runOn b t j = _
    rw [run_clear outputsInside]
    rfl

/-- Steps that are apart come through whatever their order, and each of them is there in the end. -/
theorem run_steps (put : ∀ t m, b.memory (b.withMemory t m) = m) (inside : ∀ r ∈ plan.regions, r.stop ≤ size)
    {order : List Step} (room : ∀ step ∈ order, step.Room plan)
    (apart : (order.map (Step.patch plan)).Pairwise Patch.Apart) (j : Journal) :
    ∃ t', (steps size plan order).run.runOn b t j = ⟨some (.ok ()), t', j⟩ ∧
      (b.memory t).Patched (order.map (Step.patch plan)) (b.memory t') := by
  induction order generalizing t with
  | nil => exact ⟨t, rfl, .nil _⟩
  | cons step rest ih =>
    obtain ⟨roomFirst, roomRest⟩ := List.forall_mem_cons.mp room
    obtain ⟨apartFirst, apartRest⟩ := List.pairwise_cons.mp apart
    obtain ⟨m, first, patched⟩ := Step.run (b := b) (t := t) roomFirst (inside _ Step.region_mem) j
    obtain ⟨t', later, patchedRest⟩ := ih (t := b.withMemory t m) roomRest apartRest
    rw [put] at patchedRest
    refine ⟨t', ?_, patched.cons patchedRest apartFirst⟩
    have whole : (steps size plan (step :: rest)).run.runOn b t j =
        (steps size plan rest).run.runOn b (b.withMemory t m) j := by
      show ((step.attempt size plan).run.bind _).runOn b t j = _
      rw [Program.runOn_bind, first]
      rfl
    exact whole.trans later

end Runs

end Staging

section Plans

open Staging

variable {layout : Layout} {windowLen : Nat} {busBase : UInt32} {weightCount batch : Nat} {plan : Placement}

/-- What is put into one region of a plan is apart from what is put into another. -/
theorem Placement.Fits.patches_apart (fits : plan.Fits layout windowLen busBase weightCount batch) {ws xs : List Operand}
    (room : ∀ step ∈ [.weights ws, .inputs xs, .clear], Step.Room plan step) :
    ([.weights ws, .inputs xs, .clear].map (Step.patch plan)).Pairwise Patch.Apart := by
  have weights := Step.Room.within (room (.weights ws) (by simp))
  have inputs := Step.Room.within (room (.inputs xs) (by simp))
  have outputs := Step.Room.within (room .clear (by simp))
  obtain ⟨⟨first, second⟩, third⟩ := pairwise_three.mp fits.apart
  exact pairwise_three.mpr
    ⟨⟨first.within weights inputs, second.within weights outputs⟩, third.within inputs outputs⟩

/-- The regions of a plan are filled in any order. It always comes to the same memory, whatever was in it: the matrices
are in their blocks, the outputs are clear and nothing outside of the regions has changed. -/
theorem Layout.staging_commutes (placed : layout.place windowLen busBase weightCount batch = .ok plan)
    {σ : Type} {b : Board σ} (put : ∀ t m, b.memory (b.withMemory t m) = m) {t : σ}
    (reaches : windowLen ≤ (b.memory t).size) {ws xs : List Operand} (few : ws.length ≤ weightCount)
    (few' : xs.length ≤ batch) :
    ∃ m : Memory,
      (∀ order : List Step, order.Perm [.weights ws, .inputs xs, .clear] → ∀ j,
        ∃ t', (steps (b.memory t).size plan order).run.runOn b t j = ⟨some (.ok ()), t', j⟩ ∧ b.memory t' = m) ∧
      m.size = (b.memory t).size ∧
      (∀ i (bound : i < ws.length), Wire.ofWeights (m.block (plan.weights.offset + 64 * i) 64) = ws[i]) ∧
      (∀ i (bound : i < xs.length), Wire.ofInputs (m.block (plan.inputs.offset + 64 * i) 64) = xs[i]) ∧
      (∀ i, plan.outputs.extent.Has i → m.byte i = 0) ∧
      ∀ i, (∀ r ∈ plan.regions, ¬ r.extent.Has i) → m.byte i = (b.memory t).byte i := by
  obtain ⟨-, fits⟩ := fits_of_place placed
  let all : List Step := [.weights ws, .inputs xs, .clear]
  have room : ∀ step ∈ all, step.Room plan := by
    have weightsLen := fits.weights.len
    have inputsLen := fits.inputs.len
    refine List.forall_mem_cons.mpr ⟨?_, List.forall_mem_cons.mpr ⟨?_, List.forall_mem_singleton.mpr trivial⟩⟩
    · show 64 * ws.length ≤ plan.weights.len
      omega
    · show 64 * xs.length ≤ plan.inputs.len
      omega
  have inside : ∀ r ∈ plan.regions, r.stop ≤ (b.memory t).size :=
    fits.forall_regions fun r offset count each fit => Nat.le_trans fit.inside reaches
  have ran : ∀ order : List Step, order.Perm all → ∀ j,
      ∃ t', (steps (b.memory t).size plan order).run.runOn b t j = ⟨some (.ok ()), t', j⟩ ∧
        (b.memory t).Patched (all.map (Step.patch plan)) (b.memory t') := by
    intro order same j
    have apart : (order.map (Step.patch plan)).Pairwise Patch.Apart :=
      ((same.map _).pairwise_iff Patch.Apart.symm).mpr (fits.patches_apart room)
    obtain ⟨t', run, patched⟩ := run_steps put inside (fun step among => room step (same.mem_iff.mp among)) apart j
    exact ⟨t', run, patched.perm (same.map _)⟩
  obtain ⟨t₀, -, patched⟩ := ran _ (.refl _) .empty
  refine ⟨b.memory t₀, ?_, patched.size, ?_, ?_, ?_, ?_⟩
  · intro order same j
    obtain ⟨t', run, also⟩ := ran order same j
    exact ⟨t', run, also.unique patched⟩
  · intro i bound
    have among : .ofBytes plan.weights.offset (Wire.weightBatch ws) ∈ all.map (Step.patch plan) := .head _
    rw [patched.block among bound, Wire.ofWeights_weights]
  · intro i bound
    have among : .ofBytes plan.inputs.offset (Wire.inputBatch xs) ∈ all.map (Step.patch plan) := .tail _ (.head _)
    rw [patched.block among bound, Wire.ofInputs_inputs]
  · intro i has
    exact patched.inside _ (.tail _ (.tail _ (.head _))) i has
  · intro i out
    refine patched.outside i ?_
    intro p among has
    obtain ⟨step, member, rfl⟩ := List.mem_map.mp among
    exact out _ Step.region_mem (Step.Room.within (room step member) i has)

/-- Two matrices in a memory that was not clear, in two of the orders. One region holds less than it has room for. -/
theorem Layout.small_staging_commutes :
    let layout : Layout := ⟨0x400, 0, 0x100⟩
    let plan : Placement := ⟨⟨"weights", 0x400, 128, 0x20000400⟩, ⟨"inputs", 0, 192, 0x20000000⟩,
      ⟨"outputs", 0x100, 768, 0x20000100⟩⟩
    let t : Script := ⟨[], (Memory.zeroed 0x480).store 0xf0 (List.replicate 0x20 0xff)⟩
    let ws : List Operand := [.identity, .asymmetric 3]
    let xs : List Operand := [.asymmetric 7]
    layout.place 0x480 0x20000000 2 3 = .ok plan ∧
    ∃ m t₁ t₂,
      (steps 0x480 plan [.weights ws, .inputs xs, .clear]).run.runOn (Script.board (.steady 0)) t .empty =
        ⟨some (.ok ()), t₁, .empty⟩ ∧
      (steps 0x480 plan [.clear, .inputs xs, .weights ws]).run.runOn (Script.board (.steady 0)) t .empty =
        ⟨some (.ok ()), t₂, .empty⟩ ∧
      t₁.memory = m ∧ t₂.memory = m ∧
      Wire.ofWeights (m.block 0x440 64) = .asymmetric 3 ∧ Wire.ofInputs (m.block 0 64) = .asymmetric 7 ∧
      m.byte 0x100 = 0 ∧ m.byte 0xff = 0xff := by
  intro layout plan t ws xs
  have placed : layout.place 0x480 0x20000000 2 3 = .ok plan := by cbv
  have size : ((Script.board (.steady 0)).memory t).size = 0x480 := Memory.size_store ..
  have few : ws.length ≤ 2 := by decide
  have few' : xs.length ≤ 3 := by decide
  obtain ⟨m, orders, -, weights, inputs, clear, others⟩ :=
    layout.staging_commutes placed (b := (Script.board (.steady 0))) (fun _ _ => rfl) (Nat.le_of_eq size.symm) few few'
  rw [size] at orders
  obtain ⟨t₁, first, same⟩ := orders _ (.refl _) .empty
  obtain ⟨t₂, second, same'⟩ := orders _ (List.reverse_perm _) .empty
  have before : ((Script.board (.steady 0)).memory t).byte 0xff = 0xff := by
    show ((Memory.zeroed 0x480).store 0xf0 (List.replicate 0x20 0xff)).byte 0xff = 0xff
    rw [Memory.byte_store]
    rfl
  refine ⟨placed, m, t₁, t₂, first, second, same, same', weights 1 (by decide), inputs 0 (by decide),
    clear 0x100 (by decide), (others 0xff ?_).trans before⟩
  intro r among has
  simp only [plan, Placement.regions, List.mem_cons, List.not_mem_nil, or_false] at among
  rcases among with rfl | rfl | rfl <;> exact absurd has (by decide)

end Plans

end Systolic
