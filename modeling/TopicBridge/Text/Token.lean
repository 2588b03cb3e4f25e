/-!
# Identifiers, separators and decimal numbers

The small pieces from which type specifications and message definitions are
made: identifiers, a cut at the first occurrence of a separator, and unsigned
decimal numbers.
-/

namespace TopicBridge.Text

/-- An ASCII letter or an underscore. -/
def isIdentifierStart (c : Char) : Bool :=
  c.isAlpha || c = '_'

/-- An ASCII letter, an ASCII digit or an underscore. -/
def isIdentifierRest (c : Char) : Bool :=
  c.isAlphanum || c = '_'

/-- A letter or underscore followed by letters, digits and underscores. -/
def isIdentifier : List Char → Bool
  | [] => false
  | c :: rest => isIdentifierStart c && rest.all isIdentifierRest

/-- The parts of a text before and after the first occurrence of a separator. -/
def cutAt (separator : Char) : List Char → Option (List Char × List Char)
  | [] => none
  | c :: rest =>
      if c = separator then some ([], rest)
      else (cutAt separator rest).map fun parts => (c :: parts.1, parts.2)

/-- The parts of a text before and after the last occurrence of a separator. -/
def cutAtLast (separator : Char) (cs : List Char) : Option (List Char × List Char) :=
  (cutAt separator cs.reverse).map fun parts => (parts.2.reverse, parts.1.reverse)

/-- A cut puts the text together again around the separator. -/
theorem eq_append_of_cutAt {separator : Char} {cs before after : List Char}
    (h : cutAt separator cs = some (before, after)) :
    cs = before ++ separator :: after ∧ separator ∉ before := by
  induction cs generalizing before with
  | nil => simp [cutAt] at h
  | cons c rest ih =>
      by_cases hc : c = separator
      · simp only [cutAt, if_pos hc, Option.some.injEq, Prod.mk.injEq] at h
        obtain ⟨rfl, rfl⟩ := h
        simp [hc]
      · simp only [cutAt, if_neg hc, Option.map_eq_some_iff, Prod.mk.injEq] at h
        obtain ⟨⟨inner, tail⟩, found, rfl, rfl⟩ := h
        obtain ⟨rfl, absent⟩ := ih found
        simp [absent, Ne.symm hc]

/-- The value of a run of decimal digits, most significant first. -/
def decimalValue (digits : List Char) : Nat :=
  digits.foldl (fun value digit => 10 * value + (digit.toNat - '0'.toNat)) 0

/-- Read an unsigned decimal number: one or more ASCII digits after an optional
plus sign, and nothing else. -/
def readDecimal? (cs : List Char) : Option Nat :=
  let digits := match cs with
    | '+' :: rest => rest
    | other => other
  if digits.isEmpty || !digits.all Char.isDigit then none else some (decimalValue digits)

end TopicBridge.Text
