import TopicBridge.Number.Power

/-!
# Binary interchange floating point

A floating-point datum is kept as its bit pattern.  Every finite value of the
two formats used here, `binary32` and `binary64`, is a whole multiple of
`2 ^ -1074`, the smallest positive `binary64`.  The exact magnitude of a value
is therefore a natural number of these units, and the conversions are integer
arithmetic: take the exact magnitude, then round to the nearest value of the
other format, a tie going to the even neighbour.
-/

namespace TopicBridge.Number

/-- A binary interchange format.  `grain` is the exponent of its smallest
positive value, counted from `2 ^ -1074`. -/
structure Format where
  fractionBits : Nat
  exponentBits : Nat
  grain : Nat
  deriving DecidableEq

/-- Single precision: the smallest positive value is `2 ^ -149`. -/
def binary32 : Format := ⟨23, 8, 925⟩

/-- Double precision: the smallest positive value is `2 ^ -1074`. -/
def binary64 : Format := ⟨52, 11, 0⟩

/-- The word of infinity, without its sign.  Smaller words are finite values
and larger words are NaNs. -/
def Format.infinity (format : Format) : Nat :=
  (2 ^ format.exponentBits - 1) * 2 ^ format.fractionBits

/-- The exact magnitude of a finite word without its sign, in units of
`2 ^ -1074`. -/
def Format.magnitude (format : Format) (word : Nat) : Nat :=
  let exponent := word / 2 ^ format.fractionBits
  let fraction := word % 2 ^ format.fractionBits
  if exponent = 0 then fraction * 2 ^ format.grain
  else (2 ^ format.fractionBits + fraction) * 2 ^ (format.grain + exponent - 1)

/-- The quotient of `n` by `2 ^ shift`, rounded to the nearest integer, a tie
going to the even one. -/
def divRoundEven (n shift : Nat) : Nat :=
  let quotient := n / 2 ^ shift
  let excess := 2 * (n % 2 ^ shift)
  if 2 ^ shift < excess || (excess == 2 ^ shift && quotient % 2 == 1) then quotient + 1
  else quotient

/-- The word, without its sign, of the value nearest to a magnitude in units of
`2 ^ -1074`.  A carry out of the fraction moves on into the exponent, and what
is too large becomes infinity. -/
def Format.nearest (format : Format) (magnitude : Nat) : Nat :=
  let shift := max (magnitude.log2 - format.fractionBits) format.grain
  min ((shift - format.grain) * 2 ^ format.fractionBits + divRoundEven magnitude shift)
    format.infinity

/-- The lowest bit of the fraction that marks a NaN as quiet. -/
def Format.quietBit (format : Format) : Nat :=
  2 ^ (format.fractionBits - 1)

/-- The word of a quiet NaN with the given fraction, whose quiet bit is set if
it is not set already. -/
def Format.quietNaN (format : Format) (fraction : Nat) : Nat :=
  format.infinity + fraction + (if fraction < format.quietBit then format.quietBit else 0)

end Number

/-- A double-precision number, kept as its bit pattern. -/
structure Binary64 where
  bits : UInt64
  deriving DecidableEq, Inhabited

/-- A single-precision number, kept as its bit pattern. -/
structure Binary32 where
  bits : UInt32
  deriving DecidableEq, Inhabited

namespace Binary64

open Number

/-- The number with a sign and a word for its magnitude. -/
def ofWord (negative : Bool) (word : Nat) : Binary64 :=
  ⟨UInt64.ofNat (if negative then 2 ^ 63 + word else word)⟩

/-- The sign bit is set. -/
def isNegative (x : Binary64) : Bool :=
  2 ^ 63 ≤ x.bits.toNat

/-- The bit pattern without its sign. -/
def word (x : Binary64) : Nat :=
  x.bits.toNat % 2 ^ 63

/-- Neither infinite nor a NaN. -/
def isFinite (x : Binary64) : Bool :=
  x.word < binary64.infinity

/-- Not a number. -/
def isNaN (x : Binary64) : Bool :=
  binary64.infinity < x.word

/-- The exact value of a finite number in units of `2 ^ -1074`. -/
def units (x : Binary64) : Int :=
  if x.isNegative then -(binary64.magnitude x.word : Int) else binary64.magnitude x.word

/-- The exact integer that a number denotes, if it is finite and integral. -/
def toInt? (x : Binary64) : Option Int :=
  if x.isFinite && x.units % 2 ^ 1074 == 0 then some (x.units / 2 ^ 1074) else none

/-- The number nearest to an integer. -/
def ofInt (i : Int) : Binary64 :=
  ofWord (i < 0) (binary64.nearest (i.natAbs * 2 ^ 1074))

/-- Positive zero. -/
def zero : Binary64 := ⟨0⟩

/-- The quiet NaN with no other fraction bit set. -/
def nan : Binary64 := ⟨0x7ff8000000000000⟩

/-- Numeric equality: a NaN equals nothing and both zeros are equal. -/
def numericEq (x y : Binary64) : Bool :=
  !x.isNaN && !y.isNaN && (x.bits == y.bits || (x.word == 0 && y.word == 0))

end Binary64

namespace Binary32

open Number

/-- The number with a sign and a word for its magnitude. -/
def ofWord (negative : Bool) (word : Nat) : Binary32 :=
  ⟨UInt32.ofNat (if negative then 2 ^ 31 + word else word)⟩

/-- The sign bit is set. -/
def isNegative (x : Binary32) : Bool :=
  2 ^ 31 ≤ x.bits.toNat

/-- The bit pattern without its sign. -/
def word (x : Binary32) : Nat :=
  x.bits.toNat % 2 ^ 31

/-- The same value in double precision.  A NaN keeps its sign and the leading
bits of its fraction and becomes quiet. -/
def widen (x : Binary32) : Binary64 :=
  Binary64.ofWord x.isNegative <|
    if x.word < binary32.infinity then binary64.nearest (binary32.magnitude x.word)
    else if x.word = binary32.infinity then binary64.infinity
    else binary64.quietNaN
      ((x.word - binary32.infinity) * 2 ^ (binary64.fractionBits - binary32.fractionBits))

end Binary32

/-- The nearest single-precision number.  A NaN keeps its sign and the leading
bits of its fraction and becomes quiet. -/
def Binary64.narrow (x : Binary64) : Binary32 :=
  Binary32.ofWord x.isNegative <|
    if x.isFinite then Number.binary32.nearest (Number.binary64.magnitude x.word)
    else if x.isNaN then Number.binary32.quietNaN
      ((x.word - Number.binary64.infinity) /
        2 ^ (Number.binary64.fractionBits - Number.binary32.fractionBits))
    else Number.binary32.infinity

end TopicBridge
