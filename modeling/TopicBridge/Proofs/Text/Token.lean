import TopicBridge.Text.Blank
import TopicBridge.Proofs.Catalog.Outcome

/-!
# Separators and decimal numbers in texts that are put together

A text is cut at the separator that it was put together with, as long as the piece
before the first or behind the last one is free of it.  Identifiers are free of
blanks, and a number is read back from its decimal digits.
-/

namespace TopicBridge.Text

variable {separator c : Char} {cs before after : List Char}

/-! ## Separators -/

/-- A text without the separator is not cut. -/
theorem cutAt_eq_none (absent : separator ∉ cs) : cutAt separator cs = none := by
  induction cs with
  | nil => rfl
  | cons c rest ih =>
      rw [List.mem_cons, not_or] at absent
      rw [cutAt, if_neg (Ne.symm absent.1), ih absent.2]
      rfl

/-- A text is cut at a separator that it does not have again. -/
theorem cutAtLast_append (before : List Char) (absent : separator ∉ after) :
    cutAtLast separator (before ++ separator :: after) = some (before, after) := by
  have turned : (before ++ separator :: after).reverse =
      after.reverse ++ separator :: before.reverse := by simp
  have reversed : separator ∉ after.reverse := by rwa [List.mem_reverse]
  rw [cutAtLast, turned, cutAt_append reversed, Option.map_some, List.reverse_reverse,
    List.reverse_reverse]

/-- A cut at the last separator puts the text together again. -/
theorem eq_append_of_cutAtLast
    (cut : cutAtLast separator cs = some (before, after)) : cs = before ++ separator :: after := by
  obtain ⟨⟨last, first⟩, turned, same⟩ := Option.map_eq_some_iff.mp cut
  cases same
  have whole := congrArg List.reverse (eq_append_of_cutAt turned).1
  rw [List.reverse_reverse] at whole
  rw [whole]
  simp

/-! ## Characters of identifiers -/

/-- The ASCII characters behind the space are not blank. -/
theorem isBlank_eq_false (low : 32 < c.toNat) (high : c.toNat < 128) : isBlank c = false := by
  rw [isBlank, List.any_eq_false]
  intro range member
  rw [Bool.and_eq_true, decide_eq_true_eq, decide_eq_true_eq]
  simp only [blankRanges, List.mem_cons, List.not_mem_nil, or_false] at member
  rcases member with rfl | rfl | rfl | rfl | rfl | rfl | rfl | rfl | rfl | rfl
  all_goals dsimp only
  all_goals omega

theorem isIdentifierRest_of_mem (identifier : isIdentifier cs = true) (member : c ∈ cs) :
    isIdentifierRest c = true := by
  by_contra foreign
  exact not_mem_of_isIdentifier (by simpa using foreign) identifier member

theorem ne_nil_of_isIdentifier (identifier : isIdentifier cs = true) : cs ≠ [] := by
  rintro rfl
  cases identifier

theorem toNat_of_isIdentifierRest (rest : isIdentifierRest c = true) :
    48 ≤ c.toNat ∧ c.toNat < 123 := by
  have classes : (c.isUpper || c.isLower || c.isDigit || decide (c = '_')) = true := rest
  simp only [Bool.or_eq_true, decide_eq_true_eq] at classes
  rcases classes with ((upper | lower) | digit) | rfl
  · have range : 65 ≤ c.toNat ∧ c.toNat ≤ 90 := of_decide_eq_true upper
    omega
  · have range : (decide (97 ≤ c.toNat) && decide (c.toNat ≤ 122)) = true := lower
    rw [Bool.and_eq_true, decide_eq_true_eq, decide_eq_true_eq] at range
    omega
  · have range : (decide (48 ≤ c.toNat) && decide (c.toNat ≤ 57)) = true := digit
    rw [Bool.and_eq_true, decide_eq_true_eq, decide_eq_true_eq] at range
    omega
  · decide

/-- No character of an identifier is blank, so words do not cut one apart. -/
theorem isBlank_of_isIdentifierRest (rest : isIdentifierRest c = true) : isBlank c = false := by
  have range := toNat_of_isIdentifierRest rest
  exact isBlank_eq_false (by omega) (by omega)

theorem isBlank_of_isIdentifier (identifier : isIdentifier cs = true) (c : Char)
    (member : c ∈ cs) : isBlank c = false :=
  isBlank_of_isIdentifierRest (isIdentifierRest_of_mem identifier member)

/-! ## Decimal numbers -/

theorem isDigit_of_mem_toString {n : Nat} (member : c ∈ (toString n).toList) :
    c.isDigit = true := by
  rw [Nat.toString_eq_ofList_toDigits, String.toList_ofList] at member
  exact Nat.isDigit_of_mem_toDigits (by decide) (by decide) member

theorem toString_ne_nil (n : Nat) : (toString n).toList ≠ [] := by
  rw [Nat.toString_eq_ofList_toDigits, String.toList_ofList]
  exact Nat.toDigits_ne_nil

/-- The digits of a number are read back as that number. -/
theorem ofDigitChars_toString (n : Nat) : Nat.ofDigitChars 10 (toString n).toList 0 = n := by
  rw [Nat.toString_eq_ofList_toDigits, String.toList_ofList, Nat.ofDigitChars_ten_toDigits]

/-- A decimal number is one or more digits, maybe behind a plus sign. -/
theorem readDecimal?_eq_some_iff {n : Nat} :
    readDecimal? cs = some n ↔ ∃ sign digits, cs = sign ++ digits ∧ (sign = [] ∨ sign = ['+']) ∧
      digits ≠ [] ∧ (∀ c ∈ digits, c.isDigit = true) ∧ n = Nat.ofDigitChars 10 digits 0 := by
  have reads (digits : List Char) :
      (if digits.isEmpty || !digits.all Char.isDigit then none else some (decimalValue digits)) =
        some n ↔ digits ≠ [] ∧ (∀ c ∈ digits, c.isDigit = true) ∧
          n = Nat.ofDigitChars 10 digits 0 := by
    have value : decimalValue digits = Nat.ofDigitChars 10 digits 0 :=
      Nat.ofDigitChars_eq_foldl.symm
    rw [value, Option.ite_none_left_eq_some, Bool.or_eq_true, List.isEmpty_iff, not_or,
      Bool.not_eq_true', Bool.not_eq_false, List.all_eq_true, Option.some.injEq, and_assoc,
      eq_comm (a := n)]
  unfold readDecimal?
  dsimp only
  rw [reads]
  split
  case h_1 rest =>
    constructor
    · rintro ⟨nonempty, decimal, value⟩
      exact ⟨['+'], rest, rfl, Or.inr rfl, nonempty, decimal, value⟩
    · rintro ⟨_, digits, same, rfl | rfl, nonempty, decimal, value⟩
      · rw [List.nil_append] at same
        subst same
        cases decimal '+' List.mem_cons_self
      · cases same
        exact ⟨nonempty, decimal, value⟩
  case h_2 unsigned =>
    constructor
    · rintro ⟨nonempty, decimal, value⟩
      exact ⟨[], cs, rfl, Or.inl rfl, nonempty, decimal, value⟩
    · rintro ⟨_, digits, rfl, rfl | rfl, nonempty, decimal, value⟩
      · exact ⟨nonempty, decimal, value⟩
      · exact absurd rfl (unsigned digits)

end TopicBridge.Text
