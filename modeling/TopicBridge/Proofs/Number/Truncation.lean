import Mathlib.Order.Monotone.Basic
import TopicBridge.Proofs.Number.Denotation

/-!
# Conversion to an integer by truncation

Where numbers are kept as doubles, the way to an integer is to test that nothing stands
behind the point, to compare with the bounds of a word, and to truncate.  Each of these
works on the bit pattern and has pitfalls of its own: a difference is rounded, a comparison
fails on a NaN, a truncation that is out of range saturates, and the greatest integer of a
word is no double, so that comparing with it means comparing with `2 ^ 63`.  Together they
find the integer that the number denotes, if a word can hold it.
-/

namespace TopicBridge

open Number

/-! ## Order of magnitudes -/

namespace Number.Format

variable {format : Format} {exponent significand count : Nat}

/-- From one word to the next, the significand grows by one at the same exponent, also when it
carries. -/
theorem magnitude_wordOf_succ (canonical : format.Canonical exponent significand) :
    format.magnitude (format.wordOf exponent significand + 1) =
      (significand + 1) * 2 ^ exponent := by
  have double : 2 ^ (format.fractionBits + 1) = 2 ^ format.fractionBits * 2 := Nat.pow_succ _ _
  have least := canonical.least
  rcases Nat.lt_or_eq_of_le canonical.bound with small | carry
  · have next : format.Canonical exponent (significand + 1) :=
      ⟨least, small, canonical.leading.imp_right Nat.le_succ_of_le⟩
    exact magnitude_wordOf next
  · have next : format.Canonical (exponent + 1) (2 ^ format.fractionBits) :=
      ⟨Nat.le_succ_of_le least, Nat.pow_lt_pow_succ (by decide), Or.inr (Nat.le_refl _)⟩
    have word : format.wordOf exponent significand + 1 =
        format.wordOf (exponent + 1) (2 ^ format.fractionBits) := by
      rw [wordOf, wordOf, Nat.succ_sub least, Nat.succ_mul]
      omega
    have carry : significand + 1 = 2 ^ (format.fractionBits + 1) := carry
    rw [word, magnitude_wordOf next, carry, double, Nat.mul_assoc, ← Nat.pow_succ']

/-- A greater word has a greater magnitude. -/
theorem magnitude_strictMono (format : Format) : StrictMono format.magnitude := by
  apply strictMono_nat_of_lt_succ
  intro word
  rcases format.exists_canonical word with ⟨exponent, significand, canonical, rfl⟩
  rw [magnitude_wordOf canonical, magnitude_wordOf_succ canonical]
  exact Nat.mul_lt_mul_of_pos_right (Nat.lt_succ_self _) (Nat.two_pow_pos _)

theorem magnitude_pos_iff {word : Nat} : 0 < format.magnitude word ↔ 0 < word := by
  have order := format.magnitude_strictMono.lt_iff_lt (a := 0) (b := word)
  rwa [magnitude_zero] at order

/-- Only nothing is rounded to zero in a format that has the unit. -/
theorem nearest_pos {magnitude : Nat} (fine : format.grain = 0) (large : 0 < format.infinity)
    (positive : 0 < magnitude) : 0 < format.nearest magnitude := by
  have power : 0 < 2 ^ format.fractionBits := Nat.two_pow_pos _
  rw [nearest, fine, Nat.sub_zero, Nat.max_zero]
  apply Nat.lt_min.mpr
  refine ⟨?_, large⟩
  cases shift : magnitude.log2 - format.fractionBits with
  | zero =>
      have whole := divRoundEven_mul_pow magnitude 0
      rw [Nat.pow_zero, Nat.mul_one] at whole
      rw [whole]
      omega
  | succ n => exact Nat.add_pos_left (Nat.mul_pos (Nat.succ_pos n) power) _

/-! ## Clearing low bits -/

theorem clear_mul_pow_add {fractionBits count : Nat} (low : count ≤ fractionBits) (a b : Nat) :
    (a * 2 ^ fractionBits + b) / 2 ^ count * 2 ^ count =
      a * 2 ^ fractionBits + b / 2 ^ count * 2 ^ count := by
  have split : 2 ^ fractionBits = 2 ^ (fractionBits - count) * 2 ^ count := by
    rw [← Nat.pow_add, Nat.sub_add_cancel low]
  rw [split, ← Nat.mul_assoc, Nat.add_comm, Nat.add_mul_div_right _ _ (Nat.two_pow_pos count),
    Nat.add_mul, Nat.add_comm]

/-- Clearing low bits of a word clears them in its significand. -/
theorem clear_wordOf (low : count ≤ format.fractionBits)
    (exponent significand : Nat) :
    format.wordOf exponent significand / 2 ^ count * 2 ^ count =
      format.wordOf exponent (significand / 2 ^ count * 2 ^ count) :=
  clear_mul_pow_add low _ _

/-- The leading bit is not among those that are cleared. -/
theorem Canonical.clear (canonical : format.Canonical exponent significand)
    (low : count ≤ format.fractionBits) (leading : 2 ^ format.fractionBits ≤ significand) :
    format.Canonical exponent (significand / 2 ^ count * 2 ^ count) := by
  obtain ⟨rest, rfl⟩ := Nat.exists_eq_add_of_le leading
  have kept := clear_mul_pow_add low 1 rest
  have cleared := Nat.div_mul_le_self (2 ^ format.fractionBits + rest) (2 ^ count)
  rw [Nat.one_mul] at kept
  refine ⟨canonical.least, Nat.lt_of_le_of_lt cleared canonical.bound, Or.inr ?_⟩
  rw [kept]
  exact Nat.le_add_right _ _

theorem mul_pow_div_mul_pow (significand exponent unit : Nat) :
    significand * 2 ^ exponent / 2 ^ unit * 2 ^ unit =
      significand / 2 ^ (unit - exponent) * 2 ^ (unit - exponent) * 2 ^ exponent := by
  rcases Nat.le_total exponent unit with fine | coarse
  · have split : 2 ^ unit = 2 ^ (unit - exponent) * 2 ^ exponent := by
      rw [← Nat.pow_add, Nat.sub_add_cancel fine]
    rw [split, Nat.mul_div_mul_right _ _ (Nat.two_pow_pos exponent), Nat.mul_assoc]
  · have split : 2 ^ exponent = 2 ^ (exponent - unit) * 2 ^ unit := by
      rw [← Nat.pow_add, Nat.sub_add_cancel coarse]
    rw [Nat.sub_eq_zero_of_le coarse, Nat.pow_zero, Nat.div_one, Nat.mul_one, split,
      ← Nat.mul_assoc, Nat.mul_div_cancel _ (Nat.two_pow_pos unit)]

end Number.Format

namespace Binary64

/-! ## Comparison -/

/-- The place of a number in the order: its word, with its sign.  Both zeros have the same. -/
def rank (x : Binary64) : Int :=
  if x.isNegative then -(x.word : Int) else x.word

/-- The comparison `x < y`, which is false of a NaN. -/
def below (x y : Binary64) : Bool :=
  !x.isNaN && !y.isNaN && decide (x.rank < y.rank)

/-- The comparison `x ≤ y`, which is false of a NaN. -/
def atMost (x y : Binary64) : Bool :=
  !x.isNaN && !y.isNaN && decide (x.rank ≤ y.rank)

theorem rank_lt_rank_iff {x y : Binary64} : x.rank < y.rank ↔ x.units < y.units := by
  have order := binary64.magnitude_strictMono.lt_iff_lt (a := x.word) (b := y.word)
  have reverse := binary64.magnitude_strictMono.lt_iff_lt (a := y.word) (b := x.word)
  have first : 0 < binary64.magnitude x.word ↔ 0 < x.word := Format.magnitude_pos_iff
  have second : 0 < binary64.magnitude y.word ↔ 0 < y.word := Format.magnitude_pos_iff
  rw [rank, rank, units, units]
  split <;> split <;> omega

theorem isNaN_of_isFinite {x : Binary64} (finite : x.isFinite = true) : x.isNaN = false := by
  have below : x.word < binary64.infinity := of_decide_eq_true finite
  exact decide_eq_false (Nat.lt_asymm below)

/-- Finite numbers are compared by their values. -/
theorem below_iff {x y : Binary64} (first : x.isFinite = true) (second : y.isFinite = true) :
    x.below y = true ↔ x.units < y.units := by
  rw [← rank_lt_rank_iff, below, isNaN_of_isFinite first, isNaN_of_isFinite second]
  exact decide_eq_true_iff

theorem atMost_iff {x y : Binary64} (first : x.isFinite = true) (second : y.isFinite = true) :
    x.atMost y = true ↔ x.units ≤ y.units := by
  rw [← Int.not_lt, ← rank_lt_rank_iff, Int.not_lt, atMost, isNaN_of_isFinite first,
    isNaN_of_isFinite second]
  exact decide_eq_true_iff

/-! ## The part behind the point -/

/-- A word without the bits that stand behind the point.  With an exponent of 1023 these are all
52 bits of the fraction, and with a smaller one there is nothing before the point. -/
def truncWord (word : Nat) : Nat :=
  if word / 2 ^ 52 < 1023 then 0
  else word / 2 ^ (1075 - word / 2 ^ 52) * 2 ^ (1075 - word / 2 ^ 52)

/-- The number without the part behind the point, of the same sign. -/
def trunc (x : Binary64) : Binary64 :=
  ofWord x.isNegative (truncWord x.word)

/-- The number nearest to some units, which is positive zero for none. -/
def ofUnits (units : Int) : Binary64 :=
  ofWord (units < 0) (binary64.nearest units.natAbs)

/-- The part of a number behind the point: the number less its truncation, as subtraction gives
it.  An infinity less itself is a NaN. -/
def fract (x : Binary64) : Binary64 :=
  if x.isFinite then ofUnits (x.units - x.trunc.units) else nan

/-- The magnitude of a truncated word is rounded down to whole numbers. -/
theorem magnitude_truncWord (word : Nat) :
    binary64.magnitude (truncWord word) = binary64.magnitude word / 2 ^ 1074 * 2 ^ 1074 := by
  rw [truncWord]
  split
  case isTrue small =>
    have one : binary64.magnitude (1023 * 2 ^ 52) = 2 ^ 1074 := by decide +kernel
    have less : binary64.magnitude word < 2 ^ 1074 := by
      rw [← one]
      apply binary64.magnitude_strictMono
      omega
    rw [Nat.div_eq_of_lt less, Format.magnitude_zero]
    generalize 1074 = unit
    exact (Nat.zero_mul _).symm
  case isFalse large =>
    rcases binary64.exists_canonical word with ⟨exponent, significand, canonical, rfl⟩
    have bound : significand < 2 ^ 53 := canonical.bound
    have word : binary64.wordOf exponent significand = exponent * 2 ^ 52 + significand := rfl
    have leading : 2 ^ 52 ≤ significand := by
      rcases canonical.leading with least | leading
      · have least : exponent = 0 := least
        omega
      · exact leading
    have shift : 1075 - binary64.wordOf exponent significand / 2 ^ 52 = 1074 - exponent := by omega
    have low : 1074 - exponent ≤ binary64.fractionBits := by
      change 1074 - exponent ≤ 52
      omega
    rw [shift, Format.clear_wordOf low, Format.magnitude_wordOf (canonical.clear low leading),
      Format.magnitude_wordOf canonical]
    exact (Format.mul_pow_div_mul_pow significand exponent 1074).symm

theorem truncWord_le (word : Nat) : truncWord word ≤ word := by
  rw [truncWord]
  split
  · exact Nat.zero_le _
  · exact Nat.div_mul_le_self _ _

/-- The value of a truncation is rounded toward zero. -/
theorem units_trunc (x : Binary64) : x.trunc.units = x.units.tdiv (2 ^ 1074) * 2 ^ 1074 := by
  have bound : truncWord x.word < 2 ^ 63 := Nat.lt_of_le_of_lt (truncWord_le _) x.word_lt
  rw [trunc, units, units, isNegative_ofWord _ bound, word_ofWord _ bound, magnitude_truncWord]
  generalize 1074 = unit
  have cast : (2 : Int) ^ unit = ((2 ^ unit : Nat) : Int) := by push_cast; rfl
  rw [cast]
  split
  · rw [Int.neg_tdiv, ← Int.ofNat_tdiv, Int.neg_mul]
    push_cast
    rfl
  · rw [← Int.ofNat_tdiv]
    push_cast
    rfl

/-- Both zeros are equal to zero, and nothing else is. -/
theorem numericEq_zero_iff {x : Binary64} : x.numericEq zero = true ↔ x.word = 0 := by
  have same : x.bits = zero.bits → x.word = 0 := fun bits => by rw [word, bits]; rfl
  have number : x.word = 0 → x.isNaN = false := fun none => by rw [isNaN, none]; rfl
  have zeroWord : zero.word = 0 := rfl
  have zeroNumber : zero.isNaN = false := rfl
  simp only [numericEq, zeroNumber, zeroWord, Bool.and_eq_true, Bool.or_eq_true, Bool.not_eq_true',
    beq_iff_eq, and_true]
  constructor
  · rintro ⟨_, bits | none⟩
    · exact same bits
    · exact none
  · exact fun none => ⟨number none, Or.inr none⟩

/-- A difference that is not nothing is not rounded to zero. -/
theorem word_ofUnits_eq_zero_iff {units : Int} : (ofUnits units).word = 0 ↔ units = 0 := by
  have bound : binary64.nearest units.natAbs < 2 ^ 63 :=
    Nat.lt_of_le_of_lt (binary64.nearest_le _) (by decide)
  rw [ofUnits, word_ofWord _ bound]
  constructor
  · intro none
    by_contra nonzero
    have positive : 0 < binary64.nearest units.natAbs :=
      Format.nearest_pos rfl (by decide) (Int.natAbs_pos.mpr nonzero)
    omega
  · rintro rfl
    exact Format.nearest_zero _

/-- Nothing stands behind the point exactly if the units make whole numbers. -/
theorem fract_numericEq_zero_iff {x : Binary64} (finite : x.isFinite = true) :
    x.fract.numericEq zero = true ↔ x.units % 2 ^ 1074 = 0 := by
  rw [numericEq_zero_iff, fract, if_pos finite, word_ofUnits_eq_zero_iff, units_trunc,
    ← Int.dvd_iff_emod_eq_zero]
  generalize 1074 = unit
  rw [Int.sub_eq_zero, Int.dvd_iff_tmod_eq_zero, Int.tmod_def, Int.sub_eq_zero, Int.mul_comm]

/-! ## The whole way -/

/-- The number without the part behind the point, held within the bounds of a word.  A NaN gives
zero. -/
def toInt64 (x : Binary64) : Int64 :=
  if x.isNaN then 0
  else Int64.ofInt (max (-2 ^ 63) (min (x.units.tdiv (2 ^ 1074)) (2 ^ 63 - 1)))

/-- The integer found by testing, comparing and truncating. -/
def checkedInt? (x : Binary64) : Option Int64 :=
  if x.fract.numericEq zero && x.isFinite then
    if (ofInt (-2 ^ 63)).atMost x && x.below (ofInt (2 ^ 63 - 1)) then some x.toInt64 else none
  else none

/-- The least integer of a word is a double. -/
theorem ofInt_least : ofInt (-2 ^ 63) = ⟨0xc3e0000000000000⟩ := by decide +kernel

/-- The greatest integer of a word is no double, and the nearest one is the next integer. -/
theorem ofInt_greatest : ofInt (2 ^ 63 - 1) = ⟨0x43e0000000000000⟩ := by decide +kernel

theorem least_atMost_iff {x : Binary64} (finite : x.isFinite = true) :
    (ofInt (-2 ^ 63)).atMost x = true ↔ -2 ^ 63 * 2 ^ 1074 ≤ x.units := by
  have units : units ⟨0xc3e0000000000000⟩ = -2 ^ 63 * 2 ^ 1074 := by decide +kernel
  rw [ofInt_least, atMost_iff (by decide) finite, units]

theorem below_greatest_iff {x : Binary64} (finite : x.isFinite = true) :
    x.below (ofInt (2 ^ 63 - 1)) = true ↔ x.units < 2 ^ 63 * 2 ^ 1074 := by
  have units : units ⟨0x43e0000000000000⟩ = 2 ^ 63 * 2 ^ 1074 := by decide +kernel
  rw [ofInt_greatest, below_iff finite (by decide), units]

/-- Truncation does not change an integer that a word can hold. -/
theorem toInt64_of_units {x : Binary64} (finite : x.isFinite = true) {word : Int64}
    (same : x.units = word.toInt * 2 ^ 1074) : x.toInt64 = word := by
  have low := word.le_toInt
  have high := word.toInt_lt
  rw [toInt64, isNaN_of_isFinite finite, if_neg Bool.false_ne_true, same]
  generalize 1074 = unit
  have positive : (2 : Int) ^ unit ≠ 0 := Int.ne_of_gt (Int.pow_pos (by decide))
  rw [Int.mul_tdiv_cancel _ positive, Int.min_eq_left (by omega), Int.max_eq_right low,
    Int64.ofInt_toInt]

/-- Testing, comparing and truncating finds the integer that is denoted, if a word can hold it. -/
theorem checkedInt?_eq_some_iff {x : Binary64} {word : Int64} :
    x.checkedInt? = some word ↔ x.IsInteger word.toInt := by
  rw [isInteger_iff, checkedInt?]
  simp only [Option.ite_none_right_eq_some, Bool.and_eq_true, Option.some.injEq]
  constructor
  · rintro ⟨⟨whole, finite⟩, ⟨low, high⟩, found⟩
    rw [fract_numericEq_zero_iff finite] at whole
    rw [least_atMost_iff finite] at low
    rw [below_greatest_iff finite] at high
    obtain ⟨i, same⟩ := Int.dvd_of_emod_eq_zero whole
    rw [Int.mul_comm] at same
    rw [same] at low high
    have positive : (0 : Int) < 2 ^ 1074 := Int.pow_pos (by decide)
    have inside : (Int64.ofInt i).toInt = i := Int64.toInt_ofInt_of_le
      (Int.le_of_mul_le_mul_right low positive) (Int.lt_of_mul_lt_mul_right high positive.le)
    have truncated : x.toInt64 = Int64.ofInt i := toInt64_of_units finite (by rw [inside, same])
    rw [← found, truncated, inside]
    exact ⟨finite, same⟩
  · rintro ⟨finite, same⟩
    refine ⟨⟨?_, finite⟩, ⟨?_, ?_⟩, toInt64_of_units finite same⟩
    · rw [fract_numericEq_zero_iff finite, same]
      exact Int.mul_emod_left _ _
    · rw [least_atMost_iff finite, same]
      exact Int.mul_le_mul_of_nonneg_right word.le_toInt (Int.pow_nonneg (by decide))
    · rw [below_greatest_iff finite, same]
      exact Int.mul_lt_mul_of_pos_right word.toInt_lt (Int.pow_pos (by decide))

end Binary64

end TopicBridge
