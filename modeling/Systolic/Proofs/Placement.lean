import Systolic.Proofs.Checks
import Systolic.Region

namespace Systolic

/-- What makes a region fit for its use: it is where it was asked to be, with room for its matrices, it
lies in the window, and its bytes have bus addresses. -/
structure Region.Fits (r : Region) (windowLen : Nat) (busBase : UInt32) (offset count each : Nat) : Prop where
  offset : r.offset = offset
  len : r.len = count * each
  inside : r.offset + r.len ≤ windowLen
  bus : r.bus.toNat = busBase.toNat + r.offset
  addressable : r.bus.toNat + r.len < UInt32.size

/-- There is room for every matrix that a region was made for. -/
theorem Region.Fits.room {r : Region} {windowLen offset count each : Nat} {busBase : UInt32}
    (fits : r.Fits windowLen busBase offset count each) :
    each * count ≤ r.len ∧ r.offset + each * count ≤ windowLen := by
  have len := fits.len
  have inside := fits.inside
  rw [Nat.mul_comm] at len
  omega

theorem Region.checkRange_ok {offset len limit : Nat} :
    checkRange offset len limit = .ok () ↔ offset + len ≤ limit := by
  unfold checkRange
  split <;> simp_all

theorem Region.toNat_busAddress {base bus : UInt32} {offset : Nat} (has : busAddress? base offset = some bus) :
    bus.toNat = base.toNat + offset := by
  unfold busAddress? at has
  split at has
  · rename_i fits
    obtain rfl := Option.some.inj has
    rw [UInt32.toNat_add, UInt32.toNat_ofNat_of_lt' (by omega)]
    exact Nat.mod_eq_of_lt fits
  · nomatch has

theorem Region.fits_of_place {windowLen : Nat} {busBase : UInt32} {name : String} {offset count each : Nat}
    {r : Region} (placed : place windowLen busBase name offset count each = .ok r) :
    r.Fits windowLen busBase offset count each := by
  obtain ⟨-, rest⟩ := unless_ok placed
  obtain ⟨_, range, rest⟩ := except_bind_ok.mp rest
  cases address : busAddress? busBase offset with
  | none =>
    rw [address] at rest
    nomatch rest
  | some bus =>
    rw [address] at rest
    obtain ⟨addressable, rest⟩ := unless_ok rest
    obtain rfl := Except.ok.inj rest
    exact ⟨rfl, rfl, checkRange_ok.mp range, toNat_busAddress address, addressable⟩

/-- A region that fits is the one that is made. -/
theorem Region.place_of_fits {windowLen : Nat} {busBase : UInt32} {name : String} {offset count each : Nat} {r : Region}
    (named : r.name = name) (fits : r.Fits windowLen busBase offset count each) :
    place windowLen busBase name offset count each = .ok r := by
  obtain ⟨name', offset', len, bus⟩ := r
  obtain ⟨rfl, rfl, inside, address, addressable⟩ := fits
  dsimp only at named inside address addressable
  subst named
  have narrow : UInt32.size < UInt64.size := by decide
  have counted : count * each < UInt64.size := by omega
  have range : checkRange offset' (count * each) windowLen = .ok () := checkRange_ok.mpr inside
  have found : busAddress? busBase offset' = some bus := by
    unfold busAddress?
    rw [if_pos (by omega)]
    congr 1
    apply UInt32.toNat.inj
    rw [UInt32.toNat_add, UInt32.toNat_ofNat_of_lt' (by omega), address]
    exact Nat.mod_eq_of_lt (b := UInt32.size) (by omega)
  unfold place
  rw [if_pos counted, range, found]
  dsimp only
  rw [if_pos addressable]
  rfl

/-- Before anything else a region must have a length of 64 bits. -/
theorem Region.place_overlong {windowLen : Nat} {busBase : UInt32} {name : String} {offset count each : Nat}
    (overlong : UInt64.size ≤ count * each) :
    place windowLen busBase name offset count each = .error (.invalidArgument (.regionLength name)) := by
  have uncounted : ¬ count * each < UInt64.size := Nat.not_lt.mpr overlong
  unfold place
  rw [if_neg uncounted]
  rfl

theorem Region.place_outside {windowLen : Nat} {busBase : UInt32} {name : String} {offset count each : Nat}
    (counted : count * each < UInt64.size) (outside : windowLen < offset + count * each) :
    place windowLen busBase name offset count each = .error (.outOfBounds offset (count * each) windowLen) := by
  have range : checkRange offset (count * each) windowLen = .error (.outOfBounds offset (count * each) windowLen) :=
    if_neg (Nat.not_le.mpr outside)
  unfold place
  rw [if_pos counted, range]
  rfl

theorem Region.check_of_overlap {r s : Region} (overlap : r.offset < s.stop ∧ s.offset < r.stop) :
    r.checkApart s = .error (.regionOverlap r.name s.name) := by
  have meet : r.overlaps s = true := by
    rw [overlaps, Bool.and_eq_true, decide_eq_true_eq, decide_eq_true_eq]
    exact overlap
  rw [checkApart, meet]
  rfl

theorem Region.apart_of_check {r s : Region} (apart : r.checkApart s = .ok ()) :
    s.stop ≤ r.offset ∨ r.stop ≤ s.offset := by
  unfold checkApart at apart
  split at apart
  · nomatch apart
  · rename_i clear
    simp only [overlaps, Bool.and_eq_true, decide_eq_true_eq] at clear
    omega

theorem Region.check_of_apart {r s : Region} (apart : s.stop ≤ r.offset ∨ r.stop ≤ s.offset) :
    r.checkApart s = .ok () := by
  have clear : r.overlaps s = false := by
    simp only [overlaps, Bool.and_eq_false_iff, decide_eq_false_iff_not]
    omega
  rw [checkApart, clear]
  rfl

/-- A plan: three fit regions, of which no two share a byte. -/
structure Placement.Fits (plan : Placement) (layout : Layout) (windowLen : Nat) (busBase : UInt32)
    (weightCount batch : Nat) : Prop where
  weights : plan.weights.Fits windowLen busBase layout.weights weightCount 64
  inputs : plan.inputs.Fits windowLen busBase layout.inputs batch 64
  outputs : plan.outputs.Fits windowLen busBase layout.outputs batch 256
  weights_inputs : plan.inputs.stop ≤ plan.weights.offset ∨ plan.weights.stop ≤ plan.inputs.offset
  weights_outputs : plan.outputs.stop ≤ plan.weights.offset ∨ plan.weights.stop ≤ plan.outputs.offset
  inputs_outputs : plan.outputs.stop ≤ plan.inputs.offset ∨ plan.inputs.stop ≤ plan.outputs.offset

theorem Layout.fits_of_place {layout : Layout} {windowLen : Nat} {busBase : UInt32} {weightCount batch : Nat}
    {plan : Placement} (placed : layout.place windowLen busBase weightCount batch = .ok plan) :
    (weightCount ≠ 0 ∧ batch ≠ 0) ∧ plan.Fits layout windowLen busBase weightCount batch := by
  unfold place at placed
  obtain ⟨counts, rest⟩ := when_ok placed
  obtain ⟨weights, fitWeights, rest⟩ := except_bind_ok.mp rest
  obtain ⟨inputs, fitInputs, rest⟩ := except_bind_ok.mp rest
  obtain ⟨outputs, fitOutputs, rest⟩ := except_bind_ok.mp rest
  obtain ⟨_, first, rest⟩ := except_bind_ok.mp rest
  obtain ⟨_, second, rest⟩ := except_bind_ok.mp rest
  obtain ⟨_, third, rest⟩ := except_bind_ok.mp rest
  obtain rfl := Except.ok.inj rest
  exact ⟨not_or.mp counts, Region.fits_of_place fitWeights, Region.fits_of_place fitInputs,
    Region.fits_of_place fitOutputs, Region.apart_of_check first, Region.apart_of_check second,
    Region.apart_of_check third⟩

theorem Layout.place_of_fits {layout : Layout} {windowLen : Nat} {busBase : UInt32} {weightCount batch : Nat}
    {plan : Placement} (counts : weightCount ≠ 0 ∧ batch ≠ 0)
    (names : plan.weights.name = "weights" ∧ plan.inputs.name = "inputs" ∧ plan.outputs.name = "outputs")
    (fits : plan.Fits layout windowLen busBase weightCount batch) :
    layout.place windowLen busBase weightCount batch = .ok plan := by
  have weights := Region.place_of_fits names.1 fits.weights
  have inputs := Region.place_of_fits names.2.1 fits.inputs
  have outputs := Region.place_of_fits names.2.2 fits.outputs
  have first := Region.check_of_apart fits.weights_inputs
  have second := Region.check_of_apart fits.weights_outputs
  have third := Region.check_of_apart fits.inputs_outputs
  unfold place
  rw [if_neg (not_or.mpr counts)]
  refine except_bind_ok.mpr ⟨_, weights, except_bind_ok.mpr ⟨_, inputs, except_bind_ok.mpr ⟨_, outputs, ?_⟩⟩⟩
  exact except_bind_ok.mpr ⟨_, first, except_bind_ok.mpr ⟨_, second, except_bind_ok.mpr ⟨_, third, rfl⟩⟩⟩

end Systolic
