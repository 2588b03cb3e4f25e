import Mathlib.Algebra.Field.Rat
import Mathlib.Tactic.FieldSimp
import Mathlib.Tactic.NormNum
import Mathlib.Tactic.Ring
import TopicBridge.Proofs.Number.Rounding

/-!
# What a double-precision number denotes

The sign, the exponent and the fraction of a finite bit pattern denote a rational number.
It is the number of units of the pattern, each of `2 ^ -1074`.  So the pattern denotes an
integer exactly if its units are a multiple of `2 ^ 1074`, and then the conversion to an
integer gives this one.
-/

namespace TopicBridge

open Number

namespace Binary64

/-- The eleven bits of the exponent.  With all of them set the pattern is an infinity or a
NaN. -/
def exponentField (x : Binary64) : Nat :=
  x.bits.toNat / 2 ^ 52 % 2 ^ 11

/-- The 52 bits of the fraction. -/
def fractionField (x : Binary64) : Nat :=
  x.bits.toNat % 2 ^ 52

/-- The number that a finite bit pattern denotes.  An exponent of zero is that of zero and
of the subnormal numbers, which have no leading one. -/
def value (x : Binary64) : ℚ :=
  (if x.isNegative then -1 else 1) *
    if x.exponentField = 0 then ((x.fractionField : ℚ) / 2 ^ 52) * (2 : ℚ) ^ (-1022 : ℤ)
    else (1 + (x.fractionField : ℚ) / 2 ^ 52) * (2 : ℚ) ^ ((x.exponentField : ℤ) - 1023)

/-- The pattern is finite and denotes an integer. -/
def IsInteger (x : Binary64) (i : Int) : Prop :=
  x.exponentField ≠ 2047 ∧ x.value = i

/-! ## Fields of the word -/

theorem word_div (x : Binary64) : x.word / 2 ^ 52 = x.exponentField := by
  rw [word, exponentField]
  omega

theorem word_mod (x : Binary64) : x.word % 2 ^ 52 = x.fractionField := by
  rw [word, fractionField]
  omega

theorem isFinite_iff {x : Binary64} : x.isFinite = true ↔ x.exponentField ≠ 2047 := by
  have bound := x.word_lt
  rw [isFinite, decide_eq_true_eq, ← word_div]
  change x.word < 2047 * 2 ^ 52 ↔ _
  omega

/-! ## Units -/

theorem zpow_neg_mul_pow (low high : Nat) :
    (2 : ℚ) ^ (-(low : ℤ)) * 2 ^ (low + high) = 2 ^ high := by
  rw [zpow_neg, zpow_natCast, pow_add, inv_mul_cancel_left₀ (pow_ne_zero _ two_ne_zero)]

/-- The magnitude of a word, as the sum and the power that its fields stand for. -/
theorem magnitude_eq (exponent fraction : Nat) :
    (if exponent = 0 then ((fraction : ℚ) / 2 ^ 52) * (2 : ℚ) ^ (-1022 : ℤ)
      else (1 + (fraction : ℚ) / 2 ^ 52) * (2 : ℚ) ^ ((exponent : ℤ) - 1023)) * 2 ^ 1074 =
      ((if exponent = 0 then fraction
        else (2 ^ 52 + fraction) * 2 ^ (exponent - 1) : Nat) : ℚ) := by
  have unit : (2 : ℚ) ^ (-1022 : ℤ) * 2 ^ 1074 = 2 ^ 52 := zpow_neg_mul_pow 1022 52
  cases exponent with
  | zero =>
      rw [if_pos rfl, if_pos rfl, mul_assoc, unit]
      field_simp
  | succ k =>
      have split : ((k + 1 : Nat) : ℤ) - 1023 = k + -1022 := by
        push_cast
        ring
      rw [if_neg (Nat.succ_ne_zero k), if_neg (Nat.succ_ne_zero k), split, zpow_add₀ two_ne_zero,
        zpow_natCast, mul_assoc, mul_assoc, unit, Nat.add_sub_cancel]
      push_cast
      field_simp
      norm_num

/-- A number is as many units as the library counts. -/
theorem value_mul_unit (x : Binary64) : x.value * 2 ^ 1074 = x.units := by
  have magnitude : binary64.magnitude x.word = if x.exponentField = 0 then x.fractionField
      else (2 ^ 52 + x.fractionField) * 2 ^ (x.exponentField - 1) := by
    rw [← word_div, ← word_mod]
    change (if x.word / 2 ^ 52 = 0 then x.word % 2 ^ 52 * 2 ^ 0
      else (2 ^ 52 + x.word % 2 ^ 52) * 2 ^ (0 + x.word / 2 ^ 52 - 1)) = _
    rw [Nat.pow_zero, Nat.mul_one, Nat.zero_add]
  rw [value, mul_assoc, magnitude_eq, ← magnitude, units]
  cases x.isNegative <;> simp

theorem eq_intCast_iff {value : ℚ} {units i : Int} {unit : Nat}
    (same : value * 2 ^ unit = units) : value = i ↔ units = i * 2 ^ unit := by
  have positive : (2 : ℚ) ^ unit ≠ 0 := pow_ne_zero _ two_ne_zero
  rw [← mul_left_inj' positive, same]
  norm_cast

theorem isInteger_iff {x : Binary64} {i : Int} :
    x.IsInteger i ↔ x.isFinite = true ∧ x.units = i * 2 ^ 1074 :=
  and_congr isFinite_iff.symm (eq_intCast_iff x.value_mul_unit)

/-- The conversion to an integer gives the integer that is denoted, and nothing for any
other number. -/
theorem toInt?_eq_some_iff {x : Binary64} {i : Int} : x.toInt? = some i ↔ x.IsInteger i := by
  rw [isInteger_iff, toInt?]
  generalize 1074 = unit
  have positive : (0 : Int) < 2 ^ unit := Int.pow_pos (by decide)
  simp only [Option.ite_none_right_eq_some, Option.some.injEq, Bool.and_eq_true, beq_iff_eq]
  constructor
  · rintro ⟨⟨finite, whole⟩, rfl⟩
    exact ⟨finite, (Int.ediv_mul_cancel (Int.dvd_of_emod_eq_zero whole)).symm⟩
  · rintro ⟨finite, same⟩
    rw [same]
    exact ⟨⟨finite, Int.mul_emod_left _ _⟩, Int.mul_ediv_cancel _ (Int.ne_of_gt positive)⟩

end Binary64

end TopicBridge
