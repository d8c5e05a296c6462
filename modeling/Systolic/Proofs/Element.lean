import Systolic.Proofs.RawWrites
import Systolic.Proofs.Transfers

namespace Systolic

open Sequencer Program

variable {size : Nat} {h : List Write} {d : Device} {s : Sequencer}

/-- The element is driven by its writes in order, and its result is what one read after them gives. -/
theorem Sequencer.perform_mac {block : MacBlock} (has : s.profile.mac = some block) (weight x y : Int32) :
    s.perform (mac weight x y) = (macWrites s.profile block weight x y).foldr (fun w rest => .write w.1 w.2 rest)
      (.read (s.profile.block.offset block.yOut) fun value => done (.ok value.toInt32, s)) := by
  unfold mac
  rw [perform_bind_passes _ (perform_require s _ _) (need_ok.mpr has)]
  rfl

theorem Sequencer.runOn_mac (sequencer : s.profile = .niosLegacy) (d : Device) (weight x y : Int32) (timing : Timing)
    (j : Journal) :
    ∃ j', (s.perform (mac weight x y)).runOn (Device.board timing) d j =
      ⟨some (.ok ((d.writeAll (macWrites .niosLegacy ⟨8, 9, 10, 11⟩ weight x y)).read 0x3002c).toInt32, s),
        d.writeAll (macWrites .niosLegacy ⟨8, 9, 10, 11⟩ weight x y), j'⟩ := by
  have has : s.profile.mac = some ⟨8, 9, 10, 11⟩ := by
    rw [sequencer]
    rfl
  rw [perform_mac has, sequencer]
  exact ⟨_, rfl⟩

theorem Sparse.set_set {α : Type} [OfNat α 0] [DecidableEq α] (t : Sparse α) (i : Nat) (a b : α) :
    (t.set i a).set i b = t.set i b := by
  ext j
  rw [get_set, get_set, get_set]
  split <;> rfl

namespace Device

/-- With other operands last given to the element, another weight kept in it and another result. -/
def withElement (d : Device) (weight x y result : Int32) : Device :=
  { d with
    registers := (d.registers.set 0x30024 x.toUInt32).set 0x30028 y.toUInt32
    macWeight := weight
    macResult := result }

section Legacy

variable (legacy : d.profile = .niosLegacy)
include legacy

theorem read_result : d.read 0x3002c = d.macResult.toUInt32 := by
  rw [read, legacy]
  rfl

theorem write_strobe (value : UInt32) : d.write 0x30020 value = d.strobe ⟨8, 9, 10, 11⟩ value := by
  rw [write, legacy]
  rfl

/-- Between two strobes the control word goes back to zero, which the element does not heed. -/
theorem write_unstrobe : d.write 0x30020 0 = d := by
  rw [write_strobe legacy, strobe, if_neg (by decide), if_neg (by decide)]

/-- The element takes for its weight what its first input register holds. -/
theorem write_loadWeight {weight : Int32} (given : (d.registers.get 0x30024).toInt32 = weight) :
    (d.write 0x30020 MacBlock.loadWeight).write 0x30020 0 = { d with macWeight := weight } := by
  have takes : d.write 0x30020 MacBlock.loadWeight = { d with macWeight := weight } := by
    rw [write_strobe legacy, strobe, if_pos rfl, word, legacy, ← given]
    rfl
  rw [takes, write_unstrobe (by exact legacy)]

theorem write_valid {x y : Int32} (given : (d.registers.get 0x30024).toInt32 = x)
    (added : (d.registers.get 0x30028).toInt32 = y) :
    (d.write 0x30020 MacBlock.valid).write 0x30020 0 = { d with macResult := y + x * d.macWeight } := by
  have makes : d.write 0x30020 MacBlock.valid = { d with macResult := y + x * d.macWeight } := by
    rw [write_strobe legacy, strobe, if_neg (by decide), if_pos rfl, word, word, legacy, ← given, ← added]
    rfl
  rw [makes, write_unstrobe (by exact legacy)]

/-- Whatever the element was given before, what it makes of new operands depends on these alone. Its first input
register holds the weight and then `x`. -/
theorem writeAll_mac (weight x y : Int32) :
    d.writeAll (macWrites .niosLegacy ⟨8, 9, 10, 11⟩ weight x y) = d.withElement weight x y (y + x * weight) := by
  let weighted : Device := { d.keep 0x30024 weight.toUInt32 with macWeight := weight }
  have takes : ((d.keep 0x30024 weight.toUInt32).write 0x30020 MacBlock.loadWeight).write 0x30020 0 = weighted := by
    refine write_loadWeight (by exact legacy) ?_
    rw [keep, Sparse.get_set, if_pos rfl, Int32.toInt32_toUInt32]
  have operands : (weighted.keep 0x30024 x.toUInt32).keep 0x30028 y.toUInt32 =
      d.withElement weight x y d.macResult := by
    rw [withElement, ← Sparse.set_set d.registers 0x30024 weight.toUInt32]
    rfl
  calc d.writeAll (macWrites .niosLegacy ⟨8, 9, 10, 11⟩ weight x y)
      _ = (((((((d.write 0x30024 weight.toUInt32).write 0x30020 MacBlock.loadWeight).write 0x30020 0).write 0x30024
            x.toUInt32).write 0x30028 y.toUInt32).write 0x30020 MacBlock.valid).write 0x30020 0) := rfl
      _ = ((d.withElement weight x y d.macResult).write 0x30020 MacBlock.valid).write 0x30020 0 := by
        rw [write_plain legacy 0x30024 rfl, takes, write_plain (by exact legacy) 0x30024 rfl,
          write_plain (by exact legacy) 0x30028 rfl, operands]
      _ = d.withElement weight x y (y + x * weight) := by
        refine write_valid (by exact legacy) ?_ ?_
        · rw [withElement, Sparse.get_set, if_neg (by decide), Sparse.get_set, if_pos rfl, Int32.toInt32_toUInt32]
        · rw [withElement, Sparse.get_set, if_pos rfl, Int32.toInt32_toUInt32]

end Legacy

end Device

/-- The sum of a product, brought back into 32 bits with its sign. -/
theorem toInt_mac (weight x y : Int32) :
    (y + x * weight).toInt = (y.toInt + x.toInt * weight.toInt).bmod (2 ^ 32) := by
  rw [Int32.toInt_add, Int32.toInt_mul, Int.add_bmod_bmod]

/-- Whatever writes a board has seen, a call of the single element gives what its own operands make, in 32 bits with
their sign. The board is left with these operands, the weight and the result in the element, with nothing else changed,
and the sequencer as it was. -/
theorem Handled.mac_exact (handled : Handled .niosLegacy size h d) (sequencer : s.profile = .niosLegacy)
    (weight x y : Int32) (timing : Timing) (j : Journal) :
    ∃ result d' j', (s.perform (mac weight x y)).runOn (Device.board timing) d j = ⟨some (.ok result, s), d', j'⟩ ∧
      result.toInt = (y.toInt + x.toInt * weight.toInt).bmod (2 ^ 32) ∧
      (∃ registers, d' = { d with registers, macWeight := weight, macResult := result } ∧
        ∀ offset, offset ≠ 0x30024 → offset ≠ 0x30028 → registers.get offset = d.registers.get offset) ∧
      Handled .niosLegacy size ((macWrites .niosLegacy ⟨8, 9, 10, 11⟩ weight x y).reverse ++ h) d' := by
  have driven := Device.writeAll_mac handled.profile weight x y
  have read : (d.withElement weight x y (y + x * weight)).read 0x3002c = (y + x * weight).toUInt32 :=
    Device.read_result (by exact handled.profile)
  obtain ⟨j', run⟩ := runOn_mac sequencer d weight x y timing j
  rw [driven, read, Int32.toInt32_toUInt32] at run
  refine ⟨_, _, j', run, toInt_mac weight x y, ⟨_, rfl, ?_⟩, ?_⟩
  · intro offset notX notY
    rw [Sparse.get_set, if_neg notY.symm, Sparse.get_set, if_neg notX.symm]
  · rw [← driven]
    exact handled.writeAll _

/-- An element that strobes of another hand have left with a weight and a result, and a product that is more than 32
bits hold. -/
theorem stray_strobes_forgotten :
    let s := Sequencer.start .niosLegacy (.attempts 0)
    let d := (Device.fresh .niosLegacy (.zeroed 64)).writeAll
      [(0x30024, 9), (0x30020, 1), (0x30028, 5), (0x30020, 2), (0x30000, 3)]
    (d.macWeight = 9 ∧ d.macResult = 86) ∧
    ∃ d' j', (s.perform (mac 0x7fffffff 2 5)).runOn (Device.board (.steady 0)) d .empty = ⟨some (.ok 3, s), d', j'⟩ ∧
      d'.memory = d.memory ∧ d'.command = 3 := by
  intro s d
  have handled : Handled .niosLegacy 64 _ d := Handled.fresh.writeAll _
  obtain ⟨result, d', j', run, sum, ⟨registers, rest, -⟩, -⟩ :=
    handled.mac_exact (s := s) rfl 0x7fffffff 2 5 (.steady 0) .empty
  obtain rfl : result = 3 := Int32.toInt.inj sum
  refine ⟨⟨?_, ?_⟩, d', j', run, ?_, ?_⟩
  · decide
  · decide
  · rw [rest]
  · rw [rest]
    rfl

end Systolic
