namespace Systolic.Word

/-- The bytes of a word, least significant first: the order in which the host and its RAM keep it. -/
def bytes (w : UInt32) : Vector UInt8 4 :=
  .ofFn fun i => UInt8.ofNat (w.toNat >>> (8 * i.val))

def ofBytes (b : Vector UInt8 4) : UInt32 :=
  UInt32.ofNat (b[0].toNat + 256 * b[1].toNat + 65536 * b[2].toNat + 16777216 * b[3].toNat)

theorem ofBytes_bytes (w : UInt32) : ofBytes (bytes w) = w := by
  have bound := w.toNat_lt
  apply UInt32.toNat.inj
  simp [ofBytes, bytes, Nat.shiftRight_eq_div_pow]
  omega

theorem bytes_ofBytes (b : Vector UInt8 4) : bytes (ofBytes b) = b := by
  apply Vector.ext
  intro i hi
  have b0 := b[0].toNat_lt
  have b1 := b[1].toNat_lt
  have b2 := b[2].toNat_lt
  have b3 := b[3].toNat_lt
  apply UInt8.toNat.inj
  have cases : i = 0 ∨ i = 1 ∨ i = 2 ∨ i = 3 := by omega
  rcases cases with rfl | rfl | rfl | rfl <;> simp [ofBytes, bytes, Nat.shiftRight_eq_div_pow] <;> omega

/-- The bytes of a word, most significant first: the order in which the array sends it. -/
def bytesBig (w : UInt32) : Vector UInt8 4 := (bytes w).reverse

def ofBytesBig (b : Vector UInt8 4) : UInt32 := ofBytes b.reverse

theorem ofBytesBig_bytesBig (w : UInt32) : ofBytesBig (bytesBig w) = w := by
  simp [ofBytesBig, bytesBig, ofBytes_bytes]

theorem bytesBig_ofBytesBig (b : Vector UInt8 4) : bytesBig (ofBytesBig b) = b := by
  simp [ofBytesBig, bytesBig, bytes_ofBytes]

/-- A word with its bytes exchanged. -/
def swapBytes (w : UInt32) : UInt32 := ofBytes (bytesBig w)

/-- The four elements in a word, the first one from its lowest byte. -/
def unpack (w : UInt32) : Vector Int8 4 := (bytes w).map UInt8.toInt8

end Systolic.Word
