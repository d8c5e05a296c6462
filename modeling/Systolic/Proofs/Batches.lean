import Systolic.Proofs.Codec
import Systolic.Proofs.Staging

namespace Systolic

namespace Staging

variable {σ : Type}

/-- All that comes of putting matrices into a region: whether it can be done, what memory is like after it, and that
nothing is done otherwise. The region may be any, and `decode` is how its blocks are read. -/
structure Stages (b : Board σ) (t : σ) (j : Journal) (r : Region) (ms : List Operand)
    (decode : Vector UInt8 64 → Operand) (x : Attempt Unit) : Prop where
  accepted : (x.run.runOn b t j).result = some (.ok ()) ↔
    64 * ms.length ≤ r.len ∧ r.offset + 64 * ms.length ≤ (b.memory t).size
  staged : (x.run.runOn b t j).result = some (.ok ()) →
    ∃ m, x.run.runOn b t j = ⟨some (.ok ()), b.withMemory t m, j⟩ ∧ m.size = (b.memory t).size ∧
      (∀ i (bound : i < ms.length), decode (m.block (r.offset + 64 * i) 64) = ms[i]) ∧
      ∀ i, i < r.offset ∨ r.offset + 64 * ms.length ≤ i → m.byte i = (b.memory t).byte i
  refused : (x.run.runOn b t j).result ≠ some (.ok ()) → ∃ e, x.run.runOn b t j = ⟨some (.error e), t, j⟩

/-- All that comes of taking results from a region. -/
structure Yields (b : Board σ) (t : σ) (j : Journal) (r : Region) (count : Nat) (x : Attempt (List Output)) : Prop where
  accepted : (∃ os, (x.run.runOn b t j).result = some (.ok os)) ↔
    256 * count ≤ r.len ∧ r.offset + 256 * count ≤ (b.memory t).size
  results : ∀ os, (x.run.runOn b t j).result = some (.ok os) → os.length = count ∧
    ∀ i (bound : i < os.length), os[i] = Wire.ofOutputs ((b.memory t).block (r.offset + 256 * i) 256)
  untouched : (x.run.runOn b t j).state = t ∧ (x.run.runOn b t j).journal = j

variable (b : Board σ) (t : σ) (j : Journal) (r : Region)

/-- What holds of a batch in any format whose reading undoes it. -/
theorem stages_place {encode : Operand → Vector UInt8 64} {decode : Vector UInt8 64 → Operand}
    (undoes : ∀ m, decode (encode m) = m) (ms : List Operand) :
    Stages b t j r ms decode (place (b.memory t).size r (ms.flatMap fun m => (encode m).toList)) := by
  have length := length_flatMap_toList encode ms
  by_cases fits : 64 * ms.length ≤ r.len ∧ r.offset + 64 * ms.length ≤ (b.memory t).size
  · let after := (b.memory t).store r.offset (ms.flatMap fun m => (encode m).toList)
    have ran : (place (b.memory t).size r (ms.flatMap fun m => (encode m).toList)).run.runOn b t j =
        ⟨some (.ok ()), b.withMemory t after, j⟩ := by
      rw [run_place (by omega) (by omega)]
      rfl
    constructor
    case accepted =>
      rw [ran]
      exact ⟨fun _ => fits, fun _ => rfl⟩
    case staged =>
      intro _
      have blocks : ∀ i (bound : i < ms.length), decode (after.block (r.offset + 64 * i) 64) = ms[i] := by
        intro i bound
        rw [Memory.block_store _ _ encode ms bound, undoes]
      have others : ∀ i, i < r.offset ∨ r.offset + 64 * ms.length ≤ i → after.byte i = (b.memory t).byte i := by
        intro i outside
        exact Memory.byte_store_outside _ (by omega)
      exact ⟨after, ran, Memory.size_store .., blocks, others⟩
    case refused =>
      intro failed
      rw [ran] at failed
      exact absurd rfl failed
  · have misfit := fits
    rw [← length] at misfit
    have ran := run_place_refused misfit
    constructor
    case accepted =>
      rw [ran]
      exact ⟨fun done => (nomatch done), fun possible => absurd possible fits⟩
    case staged =>
      rw [ran]
      intro done
      nomatch done
    case refused =>
      rw [ran]
      intro _
      exact ⟨_, rfl⟩

theorem yields_readOutputs (count : Nat) : Yields b t j r count (readOutputs (b.memory t).size r count) := by
  by_cases fits : 256 * count ≤ r.len ∧ r.offset + 256 * count ≤ (b.memory t).size
  · have ran : (readOutputs (b.memory t).size r count).run.runOn b t j =
        ⟨some (.ok (Wire.ofOutputBatch ((b.memory t).load r.offset (256 * count)))), t, j⟩ := by
      rw [run_readOutputs fits.1 fits.2]
      rfl
    constructor
    case accepted =>
      rw [ran]
      exact ⟨fun _ => fits, fun _ => ⟨_, rfl⟩⟩
    case results =>
      intro os gave
      rw [ran] at gave
      obtain rfl := Except.ok.inj (Option.some.inj gave)
      rw [Wire.ofOutputBatch, Memory.blocks_load _ _ (by decide), List.map_map]
      refine ⟨by simp, ?_⟩
      intro i bound
      simp
    case untouched =>
      rw [ran]
      exact ⟨rfl, rfl⟩
  · have failed : (∀ os, ((readOutputs (b.memory t).size r count).run.runOn b t j).result ≠ some (.ok os)) ∧
        ((readOutputs (b.memory t).size r count).run.runOn b t j).state = t ∧
        ((readOutputs (b.memory t).size r count).run.runOn b t j).journal = j := by
      rcases run_readOutputs_refused fits with ran | ⟨e, ran⟩
      · rw [ran]
        exact ⟨nofun, rfl, rfl⟩
      · rw [ran]
        exact ⟨nofun, rfl, rfl⟩
    obtain ⟨nothing, untouched⟩ := failed
    exact ⟨⟨fun ⟨os, gave⟩ => absurd gave (nothing os), fun possible => absurd possible fits⟩,
      fun os gave => absurd gave (nothing os), untouched⟩

/-- Matrices go into a region just when it has room for them and their place lies in the window; then each of them is
read back from its block and no other byte has changed, and otherwise nothing has. Results come out of a region
under the same condition, each from its block, and taking them changes nothing. -/
theorem batches_exact :
    (∀ ms, Stages b t j r ms Wire.ofWeights (writeWeights (b.memory t).size r ms) ∧
      Stages b t j r ms Wire.ofInputs (writeInputs (b.memory t).size r ms)) ∧
    ∀ count, Yields b t j r count (readOutputs (b.memory t).size r count) := by
  refine ⟨fun ms => ⟨?_, ?_⟩, yields_readOutputs b t j r⟩
  · exact stages_place b t j r Wire.ofWeights_weights ms
  · exact stages_place b t j r Wire.ofInputs_inputs ms

end Staging

end Systolic
