import TopicBridge.Proofs.Message.Grammar

/-!
# Type specifications as texts

The text of a type specification that was read is canonical: the same specification
is read from it again.  Its characters are those of identifiers, the slash and the
brackets, so that it stands in a line as one word, next to neither a comment nor an
equals sign.
-/

namespace TopicBridge.Message

open Text

theorem Shape.legible {shape : Shape} {c : Char} (member : c ∈ shape.text.toList) :
    isIdentifierRest c = true ∨ c = '[' ∨ c = ']' := by
  cases shape with
  | single => cases member
  | sequence => exact Or.inr (by simpa [Shape.text] using member)
  | fixed length =>
      simp only [Shape.text, String.toList_append, List.mem_append] at member
      rcases member with (opening | digit) | closing
      · exact Or.inr (Or.inl (List.mem_singleton.mp opening))
      · apply Or.inl
        rw [isIdentifierRest, Char.isAlphanum, isDigit_of_mem_toString digit, Bool.or_true,
          Bool.true_or]
      · exact Or.inr (Or.inr (List.mem_singleton.mp closing))

namespace TypeSpec

variable {cs : List Char} {spec : TypeSpec}

/-- The specification is read back from its text. -/
def Canonical (spec : TypeSpec) : Prop :=
  parse spec.text.toList = .ok spec

/-- Every specification that is read is canonical. -/
theorem canonical_of_parse (read : parse cs = .ok spec) : spec.Canonical :=
  parse_text read

namespace Canonical

variable (canonical : spec.Canonical)
include canonical

/-- A canonical specification has a base that is written as its text. -/
theorem written : spec.base.Written spec.base.text.toList := by
  obtain ⟨_, _, _, based, _⟩ := parse_eq_ok_iff.mp canonical
  exact based.text

theorem nonempty : spec.text.toList ≠ [] := by
  rw [text, String.toList_append]
  exact List.append_ne_nil_of_left_ne_nil canonical.written.ne_nil _

/-- The characters of a canonical text are those of identifiers, the slash and the
brackets. -/
theorem legible {c : Char} (member : c ∈ spec.text.toList) :
    isIdentifierRest c = true ∨ c = '/' ∨ c = '[' ∨ c = ']' := by
  rw [text, String.toList_append, List.mem_append] at member
  rcases member with base | shape
  · exact (canonical.written.legible base).imp_right Or.inl
  · exact (Shape.legible shape).imp_right Or.inr

theorem notMem {c : Char} (foreign : isIdentifierRest c = false) (slash : c ≠ '/')
    (opening : c ≠ '[') (closing : c ≠ ']') : c ∉ spec.text.toList := by
  intro member
  rcases canonical.legible member with rest | same | same | same
  · rw [foreign] at rest
    cases rest
  · exact slash same
  · exact opening same
  · exact closing same

theorem isBlank_eq_false {c : Char} (member : c ∈ spec.text.toList) : isBlank c = false := by
  rcases canonical.legible member with rest | rfl | rfl | rfl
  · exact isBlank_of_isIdentifierRest rest
  all_goals decide

end Canonical

end TypeSpec

end TopicBridge.Message
