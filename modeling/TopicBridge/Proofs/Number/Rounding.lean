import TopicBridge.Number.Binary

/-!
# Exact conversions between floating-point formats

A word without its sign is an exponent and a significand, and its magnitude is
the significand times a power of two.  Rounding such a magnitude gives the word
back.  Every single-precision magnitude is also one of double precision, so
widening is exact and narrowing undoes it.  A NaN survives both ways if it is
quiet, as all NaNs are that narrowing gives.
-/

namespace TopicBridge

namespace Number.Format

variable {format : Format} {exponent significand word : Nat}

/-- The exponent is the least one, or else the leading bit of the significand is
set. -/
structure Canonical (format : Format) (exponent significand : Nat) : Prop where
  least : format.grain ≤ exponent
  bound : significand < 2 ^ (format.fractionBits + 1)
  leading : exponent = format.grain ∨ 2 ^ format.fractionBits ≤ significand

/-- The word of an exponent and a significand. -/
def wordOf (format : Format) (exponent significand : Nat) : Nat :=
  (exponent - format.grain) * 2 ^ format.fractionBits + significand

theorem log2_mul_pow (positive : significand ≠ 0) :
    (significand * 2 ^ exponent).log2 = significand.log2 + exponent := by
  have power : 0 < 2 ^ exponent := Nat.two_pow_pos exponent
  have product : significand * 2 ^ exponent ≠ 0 :=
    Nat.mul_ne_zero positive (Nat.ne_of_gt power)
  apply (Nat.log2_eq_iff product).mpr
  constructor
  · rw [Nat.pow_add]
    exact Nat.mul_le_mul_right _ (Nat.log2_self_le positive)
  · rw [Nat.add_right_comm, Nat.pow_add]
    exact Nat.mul_lt_mul_of_pos_right ((Nat.log2_lt positive).mp (Nat.lt_succ_self _)) power

/-- The exponent of a canonical magnitude is the one that rounding takes. -/
theorem Canonical.shift_eq (canonical : format.Canonical exponent significand) :
    max ((significand * 2 ^ exponent).log2 - format.fractionBits) format.grain = exponent := by
  have least := canonical.least
  by_cases zero : significand = 0
  · have power : 0 < 2 ^ format.fractionBits := Nat.two_pow_pos _
    rcases canonical.leading with same | leading
    · rw [zero, Nat.zero_mul, Nat.log2_zero, same, Nat.zero_sub]
      exact Nat.max_eq_right (Nat.zero_le _)
    · omega
  · have high : significand.log2 < format.fractionBits + 1 :=
      (Nat.log2_lt zero).mpr canonical.bound
    rw [log2_mul_pow zero]
    rcases canonical.leading with same | leading
    · omega
    · have low : format.fractionBits ≤ significand.log2 := (Nat.le_log2 zero).mpr leading
      omega

theorem divRoundEven_mul_pow (n shift : Nat) : divRoundEven (n * 2 ^ shift) shift = n := by
  have power : 0 < 2 ^ shift := Nat.two_pow_pos shift
  rw [divRoundEven, Nat.mul_mod_left, Nat.mul_div_cancel n power]
  apply if_neg
  simp [Nat.ne_of_lt power]

/-- Rounding a canonical magnitude is exact, up to overflow. -/
theorem nearest_mul_pow (canonical : format.Canonical exponent significand) :
    format.nearest (significand * 2 ^ exponent) =
      min (format.wordOf exponent significand) format.infinity := by
  rw [nearest, canonical.shift_eq, divRoundEven_mul_pow]
  rfl

/-- The magnitude of a canonical word. -/
theorem magnitude_wordOf (canonical : format.Canonical exponent significand) :
    format.magnitude (format.wordOf exponent significand) = significand * 2 ^ exponent := by
  have power : 0 < 2 ^ format.fractionBits := Nat.two_pow_pos _
  have double : 2 ^ (format.fractionBits + 1) = 2 * 2 ^ format.fractionBits := by
    rw [Nat.pow_succ, Nat.mul_comm]
  have bound := canonical.bound
  by_cases small : significand < 2 ^ format.fractionBits
  · have same : exponent = format.grain := by
      rcases canonical.leading with same | leading
      · exact same
      · exact absurd leading (Nat.not_le.mpr small)
    rw [wordOf, same, Nat.sub_self, Nat.zero_mul, Nat.zero_add, magnitude,
      if_pos (Nat.div_eq_of_lt small), Nat.mod_eq_of_lt small]
  · have leading := Nat.le_of_not_lt small
    have least := canonical.least
    have split : format.wordOf exponent significand =
        (significand - 2 ^ format.fractionBits) +
          2 ^ format.fractionBits * (exponent - format.grain + 1) := by
      rw [wordOf, Nat.mul_succ, Nat.mul_comm]
      omega
    have fraction : significand - 2 ^ format.fractionBits < 2 ^ format.fractionBits := by omega
    rw [split, magnitude, Nat.add_mul_div_left _ _ power, Nat.add_mul_mod_self_left,
      Nat.div_eq_of_lt fraction, Nat.mod_eq_of_lt fraction, Nat.zero_add,
      if_neg (Nat.succ_ne_zero _), Nat.add_sub_cancel' leading]
    congr 2
    omega

/-- Every word has an exponent and a significand. -/
theorem exists_canonical (format : Format) (word : Nat) :
    ∃ exponent significand, format.Canonical exponent significand ∧
      format.wordOf exponent significand = word := by
  have power : 0 < 2 ^ format.fractionBits := Nat.two_pow_pos _
  have double : 2 ^ (format.fractionBits + 1) = 2 * 2 ^ format.fractionBits := by
    rw [Nat.pow_succ, Nat.mul_comm]
  have fraction : word % 2 ^ format.fractionBits < 2 ^ format.fractionBits := Nat.mod_lt _ power
  have split := Nat.div_add_mod word (2 ^ format.fractionBits)
  by_cases zero : word / 2 ^ format.fractionBits = 0
  · refine ⟨format.grain, word % 2 ^ format.fractionBits,
      ⟨Nat.le_refl _, by omega, Or.inl rfl⟩, ?_⟩
    rw [zero, Nat.mul_zero, Nat.zero_add] at split
    rw [wordOf, Nat.sub_self, Nat.zero_mul, Nat.zero_add, split]
  · refine ⟨format.grain + (word / 2 ^ format.fractionBits - 1),
      2 ^ format.fractionBits + word % 2 ^ format.fractionBits,
      ⟨Nat.le_add_right _ _, by omega, Or.inr (Nat.le_add_right _ _)⟩, ?_⟩
    rw [wordOf, Nat.add_sub_cancel_left, ← Nat.add_assoc, ← Nat.succ_mul,
      Nat.succ_eq_add_one, Nat.sub_add_cancel (Nat.pos_of_ne_zero zero), Nat.mul_comm, split]

/-- Rounding the magnitude of a word gives the word back. -/
theorem nearest_magnitude (finite : word ≤ format.infinity) :
    format.nearest (format.magnitude word) = word := by
  rcases format.exists_canonical word with ⟨exponent, significand, canonical, rfl⟩
  rw [magnitude_wordOf canonical, nearest_mul_pow canonical]
  exact Nat.min_eq_left finite

@[simp]
theorem magnitude_zero (format : Format) : format.magnitude 0 = 0 := by
  rw [magnitude, if_pos (Nat.zero_div _), Nat.zero_mod, Nat.zero_mul]

@[simp]
theorem nearest_zero (format : Format) : format.nearest 0 = 0 := by
  have exact := nearest_magnitude (Nat.zero_le format.infinity)
  rwa [magnitude_zero] at exact

theorem nearest_le (format : Format) (magnitude : Nat) :
    format.nearest magnitude ≤ format.infinity :=
  Nat.min_le_right _ _

end Number.Format

/-! ## Widening -/

namespace Number

/-- The exponent and the significand that a single-precision magnitude has in
double precision. -/
theorem exists_canonical_binary64 {exponent significand : Nat}
    (canonical : binary32.Canonical exponent significand) (range : exponent ≤ 1178) :
    ∃ exponent' significand', binary64.Canonical exponent' significand' ∧
      exponent' ≤ exponent ∧ significand' * 2 ^ exponent' = significand * 2 ^ exponent := by
  have least : 925 ≤ exponent := canonical.least
  by_cases zero : significand = 0
  · refine ⟨0, 0, ⟨Nat.le_refl _, Nat.two_pow_pos _, Or.inl rfl⟩, Nat.zero_le _, ?_⟩
    rw [zero, Nat.zero_mul, Nat.zero_mul]
  · have high : significand.log2 < 24 := (Nat.log2_lt zero).mpr canonical.bound
    have low := Nat.log2_self_le zero
    have below := (Nat.log2_lt zero).mp (Nat.lt_succ_self _)
    -- Shift the leading bit of the significand up to the place of bit 52.
    refine ⟨exponent - (52 - significand.log2), significand * 2 ^ (52 - significand.log2),
      ⟨Nat.zero_le _, ?_, Or.inr ?_⟩, Nat.sub_le _ _, ?_⟩
    · have top : 2 ^ (significand.log2 + 1) * 2 ^ (52 - significand.log2) = 2 ^ 53 := by
        rw [← Nat.pow_add]
        congr 1
        omega
      change significand * 2 ^ (52 - significand.log2) < 2 ^ 53
      rw [← top]
      exact Nat.mul_lt_mul_of_pos_right below (Nat.two_pow_pos _)
    · have top : 2 ^ significand.log2 * 2 ^ (52 - significand.log2) = 2 ^ 52 := by
        rw [← Nat.pow_add]
        congr 1
        omega
      change 2 ^ 52 ≤ significand * 2 ^ (52 - significand.log2)
      rw [← top]
      exact Nat.mul_le_mul_right _ low
    · rw [Nat.mul_assoc, ← Nat.pow_add]
      congr 2
      omega

/-- Every finite single-precision magnitude is one of double precision. -/
theorem nearest_binary64_magnitude {word : Nat} (finite : word < binary32.infinity) :
    binary64.nearest (binary32.magnitude word) < binary64.infinity ∧
      binary64.magnitude (binary64.nearest (binary32.magnitude word)) =
        binary32.magnitude word := by
  rcases binary32.exists_canonical word with ⟨exponent, significand, canonical, rfl⟩
  have range : exponent ≤ 1178 := by
    have least : 925 ≤ exponent := canonical.least
    have bound : (exponent - 925) * 2 ^ 23 + significand < 255 * 2 ^ 23 := finite
    rcases canonical.leading with same | leading
    · have same : exponent = 925 := same
      omega
    · have leading : 2 ^ 23 ≤ significand := leading
      omega
  rw [Format.magnitude_wordOf canonical]
  rcases exists_canonical_binary64 canonical range with
    ⟨exponent', significand', canonical', below, same⟩
  have finite' : binary64.wordOf exponent' significand' < binary64.infinity := by
    have bound : significand' < 2 ^ 53 := canonical'.bound
    change (exponent' - 0) * 2 ^ 52 + significand' < 2047 * 2 ^ 52
    omega
  rw [← same, Format.nearest_mul_pow canonical', Nat.min_eq_left (Nat.le_of_lt finite'),
    Format.magnitude_wordOf canonical']
  exact ⟨finite', rfl⟩

end Number

open Number

/-! ## Signs -/

theorem Binary64.word_lt (x : Binary64) : x.word < 2 ^ 63 :=
  Nat.mod_lt _ (by decide)

theorem Binary32.word_lt (x : Binary32) : x.word < 2 ^ 31 :=
  Nat.mod_lt _ (by decide)

theorem Binary64.toNat_ofWord (negative : Bool) {word : Nat} (bound : word < 2 ^ 63) :
    (Binary64.ofWord negative word).bits.toNat = if negative then 2 ^ 63 + word else word := by
  apply UInt64.toNat_ofNat_of_lt'
  change _ < 2 ^ 64
  split <;> omega

theorem Binary32.toNat_ofWord (negative : Bool) {word : Nat} (bound : word < 2 ^ 31) :
    (Binary32.ofWord negative word).bits.toNat = if negative then 2 ^ 31 + word else word := by
  apply UInt32.toNat_ofNat_of_lt'
  change _ < 2 ^ 32
  split <;> omega

@[simp]
theorem Binary64.word_ofWord (negative : Bool) {word : Nat} (bound : word < 2 ^ 63) :
    (Binary64.ofWord negative word).word = word := by
  rw [Binary64.word, Binary64.toNat_ofWord negative bound]
  split <;> omega

@[simp]
theorem Binary64.isNegative_ofWord (negative : Bool) {word : Nat} (bound : word < 2 ^ 63) :
    (Binary64.ofWord negative word).isNegative = negative := by
  rw [Binary64.isNegative, Binary64.toNat_ofWord negative bound]
  cases negative with
  | false => simpa using bound
  | true => simp

@[simp]
theorem Binary32.word_ofWord (negative : Bool) {word : Nat} (bound : word < 2 ^ 31) :
    (Binary32.ofWord negative word).word = word := by
  rw [Binary32.word, Binary32.toNat_ofWord negative bound]
  split <;> omega

@[simp]
theorem Binary32.isNegative_ofWord (negative : Bool) {word : Nat} (bound : word < 2 ^ 31) :
    (Binary32.ofWord negative word).isNegative = negative := by
  rw [Binary32.isNegative, Binary32.toNat_ofWord negative bound]
  cases negative with
  | false => simpa using bound
  | true => simp

/-- A single-precision number is its sign and its word. -/
theorem Binary32.ofWord_word (x : Binary32) : Binary32.ofWord x.isNegative x.word = x := by
  have bound : x.bits.toNat < 2 ^ 32 := x.bits.toNat_lt
  have same : (if x.isNegative then 2 ^ 31 + x.word else x.word) = x.bits.toNat := by
    rw [Binary32.word, Binary32.isNegative]
    by_cases negative : 2 ^ 31 ≤ x.bits.toNat
    · rw [if_pos (by simpa using negative)]
      omega
    · rw [if_neg (by simpa using negative)]
      omega
  rw [Binary32.ofWord, same, UInt32.ofNat_toNat]

/-! ## Narrowing what was widened -/

/-- A NaN that is not quiet. -/
def Binary32.isSignaling (x : Binary32) : Bool :=
  binary32.infinity < x.word && x.word < binary32.infinity + binary32.quietBit

theorem Binary32.widen_of_finite {x : Binary32} (finite : x.word < binary32.infinity) :
    x.widen = Binary64.ofWord x.isNegative (binary64.nearest (binary32.magnitude x.word)) := by
  rw [Binary32.widen, if_pos finite]

theorem Binary32.widen_of_infinite {x : Binary32} (infinite : x.word = binary32.infinity) :
    x.widen = Binary64.ofWord x.isNegative binary64.infinity := by
  rw [Binary32.widen, if_neg (by rw [infinite]; exact Nat.lt_irrefl _), if_pos infinite]

/-- Widening a quiet NaN moves its fraction up and nothing else. -/
theorem Binary32.widen_of_quiet {x : Binary32}
    (quiet : binary32.infinity + binary32.quietBit ≤ x.word) :
    x.widen = Binary64.ofWord x.isNegative
      (binary64.infinity + (x.word - binary32.infinity) * 2 ^ 29) := by
  have above : 255 * 2 ^ 23 + 2 ^ 22 ≤ x.word := quiet
  have loud : ¬ (x.word - binary32.infinity) * 2 ^ 29 < binary64.quietBit := by
    change ¬ (x.word - 255 * 2 ^ 23) * 2 ^ 29 < 2 ^ 51
    omega
  have notFinite : ¬ x.word < binary32.infinity := by
    change ¬ x.word < 255 * 2 ^ 23
    omega
  have notInfinite : ¬ x.word = binary32.infinity := by
    change ¬ x.word = 255 * 2 ^ 23
    omega
  rw [Binary32.widen, if_neg notFinite, if_neg notInfinite]
  change Binary64.ofWord x.isNegative
    (binary64.quietNaN ((x.word - binary32.infinity) * 2 ^ 29)) = _
  rw [Format.quietNaN, if_neg loud, Nat.add_zero]

theorem Binary64.narrow_of_finite {x : Binary64} (finite : x.word < binary64.infinity) :
    x.narrow = Binary32.ofWord x.isNegative (binary32.nearest (binary64.magnitude x.word)) := by
  rw [Binary64.narrow, if_pos (by simpa [Binary64.isFinite] using finite)]

theorem Binary64.narrow_of_infinite {x : Binary64} (infinite : x.word = binary64.infinity) :
    x.narrow = Binary32.ofWord x.isNegative binary32.infinity := by
  rw [Binary64.narrow, if_neg (by simp [Binary64.isFinite, infinite]),
    if_neg (by simp [Binary64.isNaN, infinite])]

theorem Binary64.narrow_of_isNaN {x : Binary64} (nan : binary64.infinity < x.word) :
    x.narrow = Binary32.ofWord x.isNegative
      (binary32.quietNaN ((x.word - binary64.infinity) / 2 ^ 29)) := by
  rw [Binary64.narrow, if_neg (by simp [Binary64.isFinite, Nat.le_of_lt nan]),
    if_pos (by simpa [Binary64.isNaN] using nan)]
  rfl

/-- Narrowing gives back what was widened, unless it is a signaling NaN. -/
theorem Binary32.narrow_widen {x : Binary32} (quiet : x.isSignaling = false) :
    x.widen.narrow = x := by
  have infinity : binary64.infinity < 2 ^ 63 := by decide
  rcases Nat.lt_trichotomy x.word binary32.infinity with finite | infinite | nan
  · rcases nearest_binary64_magnitude finite with ⟨finite', exact⟩
    have bound := Nat.lt_trans finite' infinity
    rw [widen_of_finite finite, Binary64.narrow_of_finite (by rwa [Binary64.word_ofWord _ bound]),
      Binary64.word_ofWord _ bound, Binary64.isNegative_ofWord _ bound, exact,
      Format.nearest_magnitude (Nat.le_of_lt finite), ofWord_word]
  · rw [widen_of_infinite infinite, Binary64.narrow_of_infinite (Binary64.word_ofWord _ infinity),
      Binary64.isNegative_ofWord _ infinity, ← infinite, ofWord_word]
  · have above : binary32.infinity + binary32.quietBit ≤ x.word := by
      simpa [isSignaling, nan] using quiet
    have whole : 255 * 2 ^ 23 + 2 ^ 22 ≤ x.word := above
    have limit := x.word_lt
    have bound : binary64.infinity + (x.word - binary32.infinity) * 2 ^ 29 < 2 ^ 63 := by
      change 2047 * 2 ^ 52 + (x.word - 255 * 2 ^ 23) * 2 ^ 29 < 2 ^ 63
      omega
    have nan' : binary64.infinity <
        binary64.infinity + (x.word - binary32.infinity) * 2 ^ 29 := by
      change 2047 * 2 ^ 52 < 2047 * 2 ^ 52 + (x.word - 255 * 2 ^ 23) * 2 ^ 29
      omega
    have loud : ¬ x.word - binary32.infinity < binary32.quietBit := by
      change ¬ x.word - 255 * 2 ^ 23 < 2 ^ 22
      omega
    rw [widen_of_quiet above, Binary64.narrow_of_isNaN (by rwa [Binary64.word_ofWord _ bound]),
      Binary64.word_ofWord _ bound, Binary64.isNegative_ofWord _ bound, Nat.add_sub_cancel_left,
      Nat.mul_div_cancel _ (Nat.two_pow_pos 29), Format.quietNaN, if_neg loud, Nat.add_zero,
      Nat.add_sub_cancel' (Nat.le_of_lt nan), ofWord_word]

/-- Narrowing gives no signaling NaN. -/
theorem Binary64.isSignaling_narrow (x : Binary64) : x.narrow.isSignaling = false := by
  have infinity : binary32.infinity < 2 ^ 31 := by decide
  rcases Nat.lt_trichotomy x.word binary64.infinity with finite | infinite | nan
  · have low := binary32.nearest_le (binary64.magnitude x.word)
    rw [narrow_of_finite finite, Binary32.isSignaling,
      Binary32.word_ofWord _ (Nat.lt_of_le_of_lt low infinity)]
    simp [Nat.not_lt.mpr low]
  · rw [narrow_of_infinite infinite, Binary32.isSignaling, Binary32.word_ofWord _ infinity]
    simp
  · have fraction : (x.word - binary64.infinity) / 2 ^ 29 < 2 ^ 23 := by
      have limit := x.word_lt
      have above : 2047 * 2 ^ 52 < x.word := nan
      change (x.word - 2047 * 2 ^ 52) / 2 ^ 29 < 2 ^ 23
      omega
    rw [narrow_of_isNaN nan]
    generalize (x.word - binary64.infinity) / 2 ^ 29 = f at fraction
    have quiet : binary32.infinity + binary32.quietBit ≤ binary32.quietNaN f ∧
        binary32.quietNaN f < 2 ^ 31 := by
      change 255 * 2 ^ 23 + 2 ^ 22 ≤ 255 * 2 ^ 23 + f + (if f < 2 ^ 22 then 2 ^ 22 else 0) ∧
        255 * 2 ^ 23 + f + (if f < 2 ^ 22 then 2 ^ 22 else 0) < 2 ^ 31
      split <;> omega
    rw [Binary32.isSignaling, Binary32.word_ofWord _ quiet.2]
    simp [Nat.not_lt.mpr quiet.1]

/-- Positive zero has no precision to lose. -/
theorem Binary64.widen_narrow_zero : Binary64.zero.narrow.widen = Binary64.zero := by
  have narrowed : Binary64.zero.narrow = Binary32.ofWord false 0 := by
    rw [narrow_of_finite (by decide)]
    change Binary32.ofWord false (binary32.nearest (binary64.magnitude 0)) = _
    rw [Format.magnitude_zero, Format.nearest_zero]
  rw [narrowed, Binary32.widen_of_finite (by decide)]
  change Binary64.ofWord false (binary64.nearest (binary32.magnitude 0)) = _
  rw [Format.magnitude_zero, Format.nearest_zero]
  rfl

end TopicBridge
