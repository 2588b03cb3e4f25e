import TopicBridge.Number.Power

/-!
# Little-endian words

A word of a fixed number of bytes is written least significant byte first.
Writing keeps a number modulo the size of the word, and reading gives back
exactly what was kept.
-/

namespace TopicBridge

/-- A sequence of bytes, as the messaging layer carries it. -/
abbrev Bytes := List UInt8

namespace Number

/-- The lowest `count` bytes of a number, least significant first. -/
def littleEndian : (count : Nat) → Nat → Bytes
  | 0, _ => []
  | count + 1, n => UInt8.ofNat n :: littleEndian count (n / 256)

/-- The number that bytes denote, least significant first. -/
def ofLittleEndian : Bytes → Nat
  | [] => 0
  | byte :: rest => byte.toNat + 256 * ofLittleEndian rest

@[simp]
theorem length_littleEndian (count n : Nat) : (littleEndian count n).length = count := by
  induction count generalizing n with
  | zero => rfl
  | succ count ih => simp [littleEndian, ih]

/-- Reading a written word gives the number modulo the size of the word. -/
@[simp]
theorem ofLittleEndian_littleEndian (count n : Nat) :
    ofLittleEndian (littleEndian count n) = n % 256 ^ count := by
  induction count generalizing n with
  | zero => simp [littleEndian, ofLittleEndian, Nat.mod_one]
  | succ count ih =>
      have byte : (UInt8.ofNat n).toNat = n % 256 := UInt8.toNat_ofNat'
      rw [littleEndian, ofLittleEndian, ih, byte, Nat.pow_succ', Nat.mod_mul]

/-- A word of `n` bytes is below `256 ^ n`. -/
theorem ofLittleEndian_lt (bytes : Bytes) : ofLittleEndian bytes < 256 ^ bytes.length := by
  induction bytes with
  | nil => simp [ofLittleEndian]
  | cons byte rest ih =>
      have : byte.toNat < 256 := byte.toNat_lt
      simp only [ofLittleEndian, List.length_cons, Nat.pow_succ]
      omega

/-- The lowest `count` bytes of an integer in two's complement. -/
def littleEndianInt (count : Nat) (i : Int) : Bytes :=
  littleEndian count (i % 256 ^ count).toNat

/-- The integer that bytes denote in two's complement. -/
def ofLittleEndianInt (bytes : Bytes) : Int :=
  Int.bmod (ofLittleEndian bytes) (256 ^ bytes.length)

end Number

end TopicBridge
