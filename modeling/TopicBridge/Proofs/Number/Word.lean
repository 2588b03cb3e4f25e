import TopicBridge.Number.LittleEndian

/-!
# Words of bytes

Reading and writing little-endian words are inverse to each other on the numbers
that a word of a given size can hold, unsigned and in two's complement.
-/

namespace TopicBridge.Number

/-- Writing a word that was read gives its bytes back. -/
@[simp]
theorem littleEndian_ofLittleEndian (bytes : Bytes) :
    littleEndian bytes.length (ofLittleEndian bytes) = bytes := by
  induction bytes with
  | nil => rfl
  | cons byte rest ih =>
      have small : byte.toNat < 256 := byte.toNat_lt
      have low : UInt8.ofNat (byte.toNat + 256 * ofLittleEndian rest) = byte := by
        apply UInt8.toNat_inj.mp
        rw [UInt8.toNat_ofNat']
        omega
      have high : (byte.toNat + 256 * ofLittleEndian rest) / 256 = ofLittleEndian rest := by omega
      rw [List.length_cons, ofLittleEndian, littleEndian, low, high, ih]

/-- A word of some size is read as a number exactly if it is what the number is
written as, and the number fits. -/
theorem ofLittleEndian_eq_iff {count n : Nat} {bytes : Bytes} :
    bytes.length = count ∧ ofLittleEndian bytes = n ↔
      n < 256 ^ count ∧ bytes = littleEndian count n := by
  constructor
  · rintro ⟨rfl, rfl⟩
    exact ⟨ofLittleEndian_lt bytes, (littleEndian_ofLittleEndian bytes).symm⟩
  · rintro ⟨small, rfl⟩
    exact ⟨length_littleEndian count n, by simp [Nat.mod_eq_of_lt small]⟩

/-- The integers that a word in two's complement can hold. -/
def FitsSigned (count : Nat) (i : Int) : Prop :=
  -256 ^ count ≤ 2 * i ∧ 2 * i < 256 ^ count

@[simp]
theorem length_littleEndianInt (count : Nat) (i : Int) :
    (littleEndianInt count i).length = count :=
  length_littleEndian _ _

/-- A natural number is written the same way with and without a sign. -/
theorem littleEndianInt_natCast {count n : Nat} (small : n < 256 ^ count) :
    littleEndianInt count n = littleEndian count n := by
  have cast : ((256 : Int) ^ count) = ((256 ^ count : Nat) : Int) := by simp
  rw [littleEndianInt, cast, ← Int.natCast_emod, Int.toNat_natCast, Nat.mod_eq_of_lt small]

theorem ofLittleEndianInt_littleEndianInt {count : Nat} {i : Int} (fits : FitsSigned count i) :
    ofLittleEndianInt (littleEndianInt count i) = i := by
  have cast : ((256 : Int) ^ count) = ((256 ^ count : Nat) : Int) := by simp
  have positive : 0 < 256 ^ count := Nat.pow_pos (by decide)
  obtain ⟨low, high⟩ := fits
  rw [cast] at low high
  have reduced : ((i % ((256 ^ count : Nat) : Int)).toNat : Int) = i % ((256 ^ count : Nat) : Int) :=
    Int.toNat_of_nonneg (Int.emod_nonneg _ (by omega))
  have below : (i % ((256 ^ count : Nat) : Int)).toNat < 256 ^ count := by
    have := Int.emod_lt_of_pos i (b := ((256 ^ count : Nat) : Int)) (by omega)
    omega
  rw [ofLittleEndianInt, length_littleEndianInt, littleEndianInt, cast,
    ofLittleEndian_littleEndian, Nat.mod_eq_of_lt below, reduced, Int.emod_bmod]
  exact Int.bmod_eq_of_le_mul_two (by omega) (by omega)

theorem littleEndianInt_ofLittleEndianInt (bytes : Bytes) :
    littleEndianInt bytes.length (ofLittleEndianInt bytes) = bytes := by
  have cast : ((256 : Int) ^ bytes.length) = ((256 ^ bytes.length : Nat) : Int) := by simp
  have reduced : (Int.bmod (ofLittleEndian bytes) (256 ^ bytes.length) %
      ((256 ^ bytes.length : Nat) : Int)) = ofLittleEndian bytes := by
    rw [Int.bmod_emod, ← Int.natCast_emod, Nat.mod_eq_of_lt (ofLittleEndian_lt bytes)]
  rw [ofLittleEndianInt, littleEndianInt, cast, reduced, Int.toNat_natCast,
    littleEndian_ofLittleEndian]

theorem fitsSigned_ofLittleEndianInt (bytes : Bytes) :
    FitsSigned bytes.length (ofLittleEndianInt bytes) := by
  have cast : ((256 : Int) ^ bytes.length) = ((256 ^ bytes.length : Nat) : Int) := by simp
  have positive : 0 < 256 ^ bytes.length := Nat.pow_pos (by decide)
  have low := Int.le_bmod (x := ofLittleEndian bytes) positive
  have high := Int.bmod_lt (x := ofLittleEndian bytes) positive
  unfold FitsSigned ofLittleEndianInt
  rw [cast]
  cases bytes with
  | nil => decide
  | cons byte rest =>
      have even : 256 ^ (byte :: rest).length = 2 * (128 * 256 ^ rest.length) := by
        rw [List.length_cons, Nat.pow_succ]
        omega
      omega

/-- A word of some size is read as an integer exactly if it is what the integer
is written as in two's complement, and the integer fits. -/
theorem ofLittleEndianInt_eq_iff {count : Nat} {i : Int} {bytes : Bytes} :
    bytes.length = count ∧ ofLittleEndianInt bytes = i ↔
      FitsSigned count i ∧ bytes = littleEndianInt count i := by
  constructor
  · rintro ⟨rfl, rfl⟩
    exact ⟨fitsSigned_ofLittleEndianInt bytes, (littleEndianInt_ofLittleEndianInt bytes).symm⟩
  · rintro ⟨fits, rfl⟩
    exact ⟨length_littleEndianInt count i, ofLittleEndianInt_littleEndianInt fits⟩

end TopicBridge.Number
