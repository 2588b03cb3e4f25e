import TopicBridge.Proofs.Number.Rounding
import TopicBridge.Value

/-!
# Numbers on their way back

A single-precision number that was widened comes back as itself by narrowing,
but a signaling NaN comes back quiet.  Quieting it before widening makes no
difference.

An integer from `2 ^ 63` on is too large for a script integer, and the
floating-point number nearest to it is no smaller.  So a script that hands it
back has no integer to show for it.
-/

namespace TopicBridge

open Number

/-! ## Quiet NaNs -/

namespace Binary32

/-- The number with the quiet bit set, if it is a signaling NaN. -/
def quieted (x : Binary32) : Binary32 :=
  if x.isSignaling then ofWord x.isNegative (x.word + binary32.quietBit) else x

theorem isSignaling_iff {x : Binary32} :
    x.isSignaling = true ↔ 255 * 2 ^ 23 < x.word ∧ x.word < 255 * 2 ^ 23 + 2 ^ 22 := by
  rw [isSignaling, Bool.and_eq_true, decide_eq_true_eq, decide_eq_true_eq]
  rfl

theorem quieted_of_quiet {x : Binary32} (quiet : x.isSignaling = false) : x.quieted = x :=
  if_neg (Bool.eq_false_iff.mp quiet)

/-- The sign and the word of a signaling NaN that was made quiet. -/
theorem quieted_of_signaling {x : Binary32} (signaling : x.isSignaling = true) :
    x.quieted.isNegative = x.isNegative ∧ x.quieted.word = x.word + 2 ^ 22 := by
  have below := (isSignaling_iff.mp signaling).2
  have bound : x.word + 2 ^ 22 < 2 ^ 31 := by omega
  rw [quieted, if_pos signaling]
  exact ⟨isNegative_ofWord _ bound, word_ofWord _ bound⟩

@[simp]
theorem isSignaling_quieted (x : Binary32) : x.quieted.isSignaling = false := by
  cases signaling : x.isSignaling with
  | false => rw [quieted_of_quiet signaling, signaling]
  | true =>
      have above := (isSignaling_iff.mp signaling).1
      rw [Bool.eq_false_iff, Ne, isSignaling_iff, (quieted_of_signaling signaling).2]
      omega

/-- Widening a signaling NaN moves its fraction up and makes it quiet. -/
theorem widen_of_signaling {x : Binary32} (signaling : x.isSignaling = true) :
    x.widen = Binary64.ofWord x.isNegative
      (binary64.infinity + (x.word + 2 ^ 22 - binary32.infinity) * 2 ^ 29) := by
  obtain ⟨above, below⟩ := isSignaling_iff.mp signaling
  have small : (x.word - binary32.infinity) * 2 ^ 29 < binary64.quietBit := by
    change (x.word - 255 * 2 ^ 23) * 2 ^ 29 < 2 ^ (22 + 29)
    rw [Nat.pow_add]
    exact Nat.mul_lt_mul_of_pos_right (by omega) (Nat.two_pow_pos 29)
  have notFinite : ¬ x.word < binary32.infinity := by
    change ¬ x.word < 255 * 2 ^ 23
    omega
  have notInfinite : ¬ x.word = binary32.infinity := by
    change ¬ x.word = 255 * 2 ^ 23
    omega
  have moved : (x.word + 2 ^ 22 - binary32.infinity) * 2 ^ 29 =
      (x.word - binary32.infinity) * 2 ^ 29 + binary64.quietBit := by
    change (x.word + 2 ^ 22 - 255 * 2 ^ 23) * 2 ^ 29 = (x.word - 255 * 2 ^ 23) * 2 ^ 29 + 2 ^ 51
    omega
  rw [moved, widen, if_neg notFinite, if_neg notInfinite]
  change Binary64.ofWord x.isNegative
    (binary64.quietNaN ((x.word - binary32.infinity) * 2 ^ 29)) = _
  rw [Format.quietNaN, if_pos small, Nat.add_assoc]

/-- It does not matter whether a NaN was made quiet before it is widened. -/
theorem widen_quieted (x : Binary32) : x.quieted.widen = x.widen := by
  cases signaling : x.isSignaling with
  | false => rw [quieted_of_quiet signaling]
  | true =>
      obtain ⟨sameSign, sameWord⟩ := quieted_of_signaling signaling
      have quiet : binary32.infinity + binary32.quietBit ≤ x.quieted.word := by
        rw [sameWord]
        exact Nat.add_le_add_right (Nat.le_of_lt (isSignaling_iff.mp signaling).1) _
      rw [widen_of_quiet quiet, widen_of_signaling signaling, sameSign, sameWord]

/-- A number that is widened and narrowed comes back as itself, but quiet. -/
theorem narrow_widen_eq_quieted (x : Binary32) : x.widen.narrow = x.quieted := by
  rw [← widen_quieted, narrow_widen (isSignaling_quieted x)]

end Binary32

/-! ## Large integers -/

namespace Number.Format

variable {format : Format} {magnitude exponent : Nat}

/-- Rounding to a finite value does not go below a power of two that the format
has with a full significand. -/
theorem two_pow_le_magnitude_nearest (least : format.grain + format.fractionBits ≤ exponent)
    (large : 2 ^ exponent ≤ magnitude) (finite : format.nearest magnitude < format.infinity) :
    2 ^ exponent ≤ format.magnitude (format.nearest magnitude) := by
  have power : 0 < 2 ^ format.fractionBits := Nat.two_pow_pos _
  have positive : magnitude ≠ 0 := by
    have := Nat.two_pow_pos exponent
    omega
  have leading : exponent ≤ magnitude.log2 := (Nat.le_log2 positive).mpr large
  obtain ⟨shift, same⟩ : ∃ shift, magnitude.log2 = format.fractionBits + shift :=
    Nat.exists_eq_add_of_le (by omega)
  have taken : max (magnitude.log2 - format.fractionBits) format.grain = shift := by omega
  have quotient : 2 ^ format.fractionBits ≤ divRoundEven magnitude shift := by
    have whole : 2 ^ format.fractionBits ≤ magnitude / 2 ^ shift := by
      rw [Nat.le_div_iff_mul_le (Nat.two_pow_pos shift), ← Nat.pow_add, ← same]
      exact Nat.log2_self_le positive
    simp only [divRoundEven]
    split <;> omega
  have word : format.nearest magnitude =
      (shift - format.grain) * 2 ^ format.fractionBits + divRoundEven magnitude shift := by
    rw [nearest, taken] at finite ⊢
    omega
  -- The quotient keeps its leading bit, and there it counts for one more in the exponent.
  have exponentWord : shift - format.grain + 1 ≤
      format.nearest magnitude / 2 ^ format.fractionBits := by
    rw [Nat.le_div_iff_mul_le power, word, Nat.succ_mul]
    omega
  simp only [Format.magnitude]
  rw [if_neg (by omega)]
  calc 2 ^ exponent
      ≤ 2 ^ (format.fractionBits + shift) := Nat.pow_le_pow_right (by decide) (by omega)
    _ = 2 ^ format.fractionBits * 2 ^ shift := Nat.pow_add _ _ _
    _ ≤ _ := Nat.mul_le_mul (Nat.le_add_right _ _)
        (Nat.pow_le_pow_right (by decide) (by omega))

end Number.Format

/-- The nearest number to an integer from `2 ^ 63` on denotes no smaller one. -/
theorem Binary64.le_of_toInt?_ofInt {n : Nat} (large : 2 ^ 63 ≤ n) {i : Int}
    (denoted : (Binary64.ofInt n).toInt? = some i) : 2 ^ 63 ≤ i := by
  have bound : binary64.nearest (n * 2 ^ 1074) < 2 ^ 63 :=
    Nat.lt_of_le_of_lt (binary64.nearest_le _) (by decide)
  have unsigned : Binary64.ofInt n = Binary64.ofWord false (binary64.nearest (n * 2 ^ 1074)) := by
    rw [Binary64.ofInt, Int.natAbs_natCast, decide_eq_false (by omega)]
  rw [unsigned, toInt?, isFinite, units, word_ofWord _ bound, isNegative_ofWord _ bound,
    if_neg Bool.false_ne_true, Option.ite_none_right_eq_some, Bool.and_eq_true,
    decide_eq_true_eq] at denoted
  obtain ⟨⟨finite, _⟩, denoted⟩ := denoted
  -- What the unit is plays no part, and its power is not to be computed.
  generalize 1074 = unit at finite denoted
  have room : binary64.grain + binary64.fractionBits ≤ 63 + unit := by
    change 52 ≤ 63 + unit
    omega
  have scaled := Nat.mul_le_mul_right (2 ^ unit) large
  rw [← Nat.pow_add] at scaled
  have least := Format.two_pow_le_magnitude_nearest room scaled finite
  rw [Nat.pow_add] at least
  rw [← Option.some.inj denoted]
  apply Int.le_ediv_of_mul_le (Int.pow_pos (by decide))
  exact_mod_cast least

/-- No script integer holds an integer from `2 ^ 63` on, also if it is given as
the nearest floating-point number. -/
theorem Value.asInt?_float_ofInt {n : Nat} (large : 2 ^ 63 ≤ n) :
    (Value.float (Binary64.ofInt n)).asInt? = none := by
  rw [asInt?]
  cases denoted : (Binary64.ofInt n).toInt? with
  | none => rfl
  | some i =>
      have above := Binary64.le_of_toInt?_ofInt large denoted
      apply if_neg
      omega

end TopicBridge
