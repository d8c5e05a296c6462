import Systolic.Sparse
import Systolic.Word

namespace Systolic

/-- Shared RAM. Every byte is zero until it is written; `size` says how far it reaches, and it is for
those who reach into it to stay below that. -/
structure Memory where
  size : Nat
  bytes : Sparse UInt8
deriving DecidableEq

namespace Memory

def zeroed (size : Nat) : Memory := ⟨size, .empty⟩

/-- Half of what 64 bits count. Everything that a host sets aside in one piece is shorter. -/
def bound : Nat := UInt64.size / 2

def allocate? (size : Nat) : Option Memory := if size < bound then some (zeroed size) else none

def byte (m : Memory) (i : Nat) : UInt8 := m.bytes.get i

@[simp] theorem byte_zeroed (size i : Nat) : (zeroed size).byte i = 0 := by simp [zeroed, byte]

@[ext] theorem ext {m n : Memory} (size : m.size = n.size) (byte : ∀ i, m.byte i = n.byte i) :
    m = n := by
  obtain ⟨s, a⟩ := m
  obtain ⟨t, b⟩ := n
  have bytes : a = b := Sparse.ext byte
  simp_all

/-- Whether the range of `len` bytes from `offset` on lies inside. -/
def Holds (m : Memory) (offset len : Nat) : Prop := offset + len ≤ m.size

instance (m : Memory) (offset len : Nat) : Decidable (m.Holds offset len) :=
  inferInstanceAs (Decidable (_ ≤ _))

def store (m : Memory) (offset : Nat) : List UInt8 → Memory
  | [] => m
  | b :: rest => store { m with bytes := m.bytes.set offset b } (offset + 1) rest

def clear (m : Memory) (offset len : Nat) : Memory :=
  { m with bytes := m.bytes.keepOnly fun i => i < offset || offset + len ≤ i }

def load (m : Memory) (offset len : Nat) : List UInt8 :=
  (List.range len).map fun i => m.byte (offset + i)

def block (m : Memory) (offset n : Nat) : Vector UInt8 n :=
  .ofFn fun i => m.byte (offset + i)

def word (m : Memory) (offset : Nat) : UInt32 := Word.ofBytes (m.block offset 4)

def storeWord (m : Memory) (offset : Nat) (w : UInt32) : Memory :=
  m.store offset (Word.bytes w).toList

@[simp] theorem size_store (m : Memory) (offset : Nat) (bs : List UInt8) :
    (m.store offset bs).size = m.size := by
  induction bs generalizing m offset with
  | nil => rfl
  | cons b rest ih => simp [store, ih]

@[simp] theorem size_clear (m : Memory) (offset len : Nat) : (m.clear offset len).size = m.size :=
  rfl

theorem byte_store (m : Memory) (offset : Nat) (bs : List UInt8) (i : Nat) :
    (m.store offset bs).byte i =
      if offset ≤ i then bs[i - offset]?.getD (m.byte i) else m.byte i := by
  induction bs generalizing m offset with
  | nil => simp [store]
  | cons b rest ih =>
    rw [store, ih]
    by_cases below : i < offset
    · have apart : ¬ offset = i := by omega
      have before : ¬ offset + 1 ≤ i := by omega
      have outside : ¬ offset ≤ i := by omega
      simp [byte, Sparse.get_set, apart, before, outside]
    · by_cases same : offset = i
      · subst same
        have before : ¬ offset + 1 ≤ offset := by omega
        simp [byte, Sparse.get_set, before]
      · have after : offset + 1 ≤ i := by omega
        have inside : offset ≤ i := by omega
        have shift : i - offset = i - (offset + 1) + 1 := by omega
        simp [byte, Sparse.get_set, same, after, inside, shift]

theorem byte_clear (m : Memory) (offset len i : Nat) :
    (m.clear offset len).byte i = if offset ≤ i ∧ i < offset + len then 0 else m.byte i := by
  unfold clear byte
  rw [Sparse.get_keepOnly]
  by_cases inside : offset ≤ i ∧ i < offset + len
  · have given : ¬ (i < offset ∨ offset + len ≤ i) := by omega
    rw [if_pos inside, if_neg (by simpa using given)]
  · have kept : i < offset ∨ offset + len ≤ i := by omega
    rw [if_neg inside, if_pos (by simpa using kept)]

@[simp] theorem length_load (m : Memory) (offset len : Nat) : (m.load offset len).length = len := by
  simp [load]

end Memory

end Systolic
