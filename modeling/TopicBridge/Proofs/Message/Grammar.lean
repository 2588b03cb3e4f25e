import TopicBridge.Proofs.Text.Token

/-!
# The grammar of type specifications

A type specification is a base and a suffix.  The base is an identifier, or two with a
slash between them, and the suffix is nothing, a pair of brackets, or a decimal number
below `2 ^ 64` in brackets.  What is said by this grammar is read, and nothing else is.
The text of a specification belongs to the grammar again, and it tells specifications
apart.
-/

namespace TopicBridge.Message

open Text

variable {cs suffix : List Char}

/-! ## Bases -/

/-- The names of builtin types: those that definitions print and two older ones. -/
inductive Builtin.Named : Builtin → List Char → Prop
  | canonical (builtin : Builtin) : Named builtin builtin.name.toList
  | byte : Named (.int .w8) "byte".toList
  | char : Named (.uint .w8) "char".toList

/-- The ways to write a base. -/
inductive BaseType.Written : BaseType → List Char → Prop
  | builtin {b : Builtin} {name : List Char} (named : b.Named name) : Written (.builtin b) name
  | plain {name : List Char} (identifier : isIdentifier name = true)
      (other : ∀ b : Builtin, ¬ b.Named name) : Written (.named none (String.ofList name)) name
  | qualified {package name : List Char} (first : isIdentifier package = true)
      (second : isIdentifier name = true) :
      Written (.named (some (String.ofList package)) (String.ofList name)) (package ++ '/' :: name)

theorem Builtin.isIdentifier_name (builtin : Builtin) :
    isIdentifier builtin.name.toList = true := by
  cases builtin with
  | int width => cases width <;> decide
  | uint width => cases width <;> decide
  | _ => decide

theorem Builtin.Named.isIdentifier {builtin : Builtin} (named : builtin.Named cs) :
    isIdentifier cs = true := by
  cases named with
  | canonical => exact builtin.isIdentifier_name
  | byte => decide
  | char => decide

theorem BaseType.Written.ne_nil {base : BaseType} (written : base.Written cs) : cs ≠ [] := by
  cases written with
  | builtin named => exact ne_nil_of_isIdentifier named.isIdentifier
  | plain identifier => exact ne_nil_of_isIdentifier identifier
  | qualified => simp

/-- The characters of a base are those of identifiers and the slash. -/
theorem BaseType.Written.legible {base : BaseType} {c : Char} (written : base.Written cs)
    (member : c ∈ cs) : isIdentifierRest c = true ∨ c = '/' := by
  cases written with
  | builtin named => exact Or.inl (isIdentifierRest_of_mem named.isIdentifier member)
  | plain identifier => exact Or.inl (isIdentifierRest_of_mem identifier member)
  | qualified first second =>
      rw [List.mem_append, List.mem_cons] at member
      rcases member with before | rfl | after
      · exact Or.inl (isIdentifierRest_of_mem first before)
      · exact Or.inr rfl
      · exact Or.inl (isIdentifierRest_of_mem second after)

/-- A base does not end like a suffix. -/
theorem BaseType.Written.unclosed {base : BaseType} (written : base.Written cs) :
    cs.getLast? ≠ some ']' := by
  intro closed
  rcases written.legible (List.mem_of_getLast? closed) with rest | slash
  · cases rest
  · cases slash

/-- The text of a base is one of the ways to write it. -/
theorem BaseType.Written.text {base : BaseType} (written : base.Written cs) :
    base.Written base.text.toList := by
  cases written with
  | @builtin b _ named => exact .builtin (.canonical b)
  | plain identifier other =>
      rw [BaseType.text, String.toList_ofList]
      exact .plain identifier other
  | qualified first second =>
      simp only [BaseType.text, String.toList_append, String.toList_ofList, List.append_assoc]
      exact .qualified first second

/-- A builtin type is found under its names. -/
theorem Builtin.ofName?_eq_some_iff {builtin : Builtin} :
    ofName? (String.ofList cs) = some builtin ↔ builtin.Named cs := by
  constructor
  · intro found
    have member := Dict.mem_of_get? found
    rw [← String.toList_ofList (l := cs)]
    generalize String.ofList cs = name at member
    rcases List.mem_append.mp member with printed | older
    · have same : ∀ entry ∈ canonicalNames, entry.1 = entry.2.name := by decide
      have printedName : name = builtin.name := same _ printed
      rw [printedName]
      exact .canonical builtin
    · simp only [olderNames, List.mem_cons, Prod.mk.injEq, List.not_mem_nil, or_false] at older
      rcases older with ⟨rfl, rfl⟩ | ⟨rfl, rfl⟩
      · exact .byte
      · exact .char
  · rintro (_ | _ | _)
    · rw [String.ofList_toList, ofName?_name]
    · decide
    · decide

namespace TypeSpec

/-- A base is read exactly if it is written as one. -/
theorem readBase?_eq_some_iff {base : BaseType} : readBase? cs = some base ↔ base.Written cs := by
  unfold readBase?
  constructor
  · intro read
    split at read
    · rename_i b named
      cases read
      exact .builtin (Builtin.ofName?_eq_some_iff.mp named)
    · rename_i other
      unfold readNamed? at read
      split at read
      · rename_i identifier
        cases read
        refine .plain identifier fun b named => ?_
        rw [Builtin.ofName?_eq_some_iff.mpr named] at other
        cases other
      · obtain ⟨⟨package, name⟩, qualified, rfl⟩ := Option.map_eq_some_iff.mp read
        obtain ⟨first, second, rfl⟩ := qualified?_eq_some_iff.mp qualified
        have written := BaseType.Written.qualified first second
        rwa [String.ofList_toList, String.ofList_toList] at written
  · intro written
    cases written with
    | builtin named => rw [Builtin.ofName?_eq_some_iff.mpr named]
    | plain identifier other =>
        have unknown : Builtin.ofName? (String.ofList cs) = none :=
          Option.eq_none_iff_forall_ne_some.mpr fun b found =>
            other b (Builtin.ofName?_eq_some_iff.mp found)
        rw [unknown]
        exact if_pos identifier
    | @qualified package name first second =>
        have slash : isIdentifier (package ++ '/' :: name) = false := by
          rw [← Bool.not_eq_true]
          intro identifier
          exact not_mem_of_isIdentifier (c := '/') (by decide) identifier (by simp)
        have unknown : Builtin.ofName? (String.ofList (package ++ '/' :: name)) = none :=
          Option.eq_none_iff_forall_ne_some.mpr fun b found => by
            have identifier := (Builtin.ofName?_eq_some_iff.mp found).isIdentifier
            rw [slash] at identifier
            cases identifier
        have parts : qualified? (package ++ '/' :: name) =
            some (String.ofList package, String.ofList name) :=
          qualified?_eq_some_iff.mpr (by simp [first, second])
        rw [unknown]
        dsimp only
        rw [readNamed?, slash, parts]
        rfl

end TypeSpec

/-! ## Shapes -/

/-- The ways to write a shape behind a base. -/
inductive Shape.Written : Shape → List Char → Prop
  | single : Written .single []
  | sequence : Written .sequence ['[', ']']
  | fixed {sign digits : List Char} (plus : sign = [] ∨ sign = ['+']) (nonempty : digits ≠ [])
      (decimal : ∀ c ∈ digits, c.isDigit = true)
      (bounded : Nat.ofDigitChars 10 digits 0 < 2 ^ 64) :
      Written (.fixed (Nat.ofDigitChars 10 digits 0)) ('[' :: (sign ++ digits) ++ [']'])

/-- The text of a shape is one of the ways to write it. -/
theorem Shape.Written.text {shape : Shape} (written : shape.Written suffix) :
    shape.Written shape.text.toList := by
  cases written with
  | single => exact .single
  | sequence => exact .sequence
  | @fixed sign digits plus nonempty decimal bounded =>
      generalize Nat.ofDigitChars 10 digits 0 = length at bounded ⊢
      have printed : Shape.Written
          (.fixed (Nat.ofDigitChars 10 (toString length).toList 0))
          ('[' :: ([] ++ (toString length).toList) ++ [']']) :=
        .fixed (Or.inl rfl) (toString_ne_nil length) (fun _ => isDigit_of_mem_toString)
          (by rwa [ofDigitChars_toString])
      rw [ofDigitChars_toString] at printed
      simpa [Shape.text] using printed

namespace TypeSpec

variable {base : List Char} {shape : Shape}

theorem readLength?_eq_some_iff {length : Nat} :
    readLength? cs = some length ↔ readDecimal? cs = some length ∧ length < 2 ^ 64 := by
  rw [readLength?, Option.filter_eq_some_iff, decide_eq_true_eq]

theorem exists_suffix_of_readShape? (read : readShape? cs = some (base, shape)) :
    ∃ suffix, cs = base ++ suffix ∧ shape.Written suffix := by
  unfold readShape? at read
  split at read
  · rename_i closed
    obtain ⟨head, rfl⟩ := List.getLast?_eq_some_iff.mp closed
    obtain ⟨⟨before, size⟩, cut, inner⟩ := Option.bind_eq_some_iff.mp read
    rw [List.dropLast_concat] at cut
    have whole := eq_append_of_cutAtLast cut
    subst whole
    dsimp only at inner
    split at inner
    · rename_i empty
      cases inner
      rw [List.isEmpty_iff.mp empty]
      exact ⟨_, List.append_assoc _ _ _, .sequence⟩
    · obtain ⟨length, digits, same⟩ := Option.map_eq_some_iff.mp inner
      cases same
      obtain ⟨decimal, bounded⟩ := readLength?_eq_some_iff.mp digits
      obtain ⟨sign, digits, rfl, plus, nonempty, decimals, rfl⟩ :=
        readDecimal?_eq_some_iff.mp decimal
      exact ⟨_, List.append_assoc _ _ _, .fixed plus nonempty decimals bounded⟩
  · cases read
    exact ⟨[], (List.append_nil cs).symm, .single⟩

/-- A shape is split off from the base that it stands behind. -/
theorem readShape?_append (written : shape.Written suffix) (unclosed : base.getLast? ≠ some ']') :
    readShape? (base ++ suffix) = some (base, shape) := by
  cases written with
  | single => rw [List.append_nil, readShape?, if_neg unclosed]
  | sequence =>
      have closed : base ++ ['[', ']'] = base ++ ['['] ++ [']'] := by
        rw [List.append_assoc]
        rfl
      rw [readShape?, closed, if_pos List.getLast?_concat, List.dropLast_concat,
        cutAtLast_append base List.not_mem_nil]
      rfl
  | @fixed sign digits plus nonempty decimal bounded =>
      have absent : '[' ∉ sign ++ digits := by
        rw [List.mem_append, not_or]
        refine ⟨?_, fun member => nomatch decimal '[' member⟩
        rcases plus with rfl | rfl <;> decide
      have length : readLength? (sign ++ digits) = some (Nat.ofDigitChars 10 digits 0) :=
        readLength?_eq_some_iff.mpr
          ⟨readDecimal?_eq_some_iff.mpr ⟨sign, digits, rfl, plus, nonempty, decimal, rfl⟩, bounded⟩
      rw [readShape?, ← List.append_assoc, if_pos List.getLast?_concat, List.dropLast_concat,
        cutAtLast_append base absent, Option.bind_some, if_neg (by simp [nonempty]), length]
      rfl

end TypeSpec

/-! ## Specifications -/

/-- A base and a shape behind it are a way to write a specification. -/
def TypeSpec.Written (spec : TypeSpec) (cs : List Char) : Prop :=
  ∃ base suffix, cs = base ++ suffix ∧ spec.base.Written base ∧ spec.shape.Written suffix

namespace TypeSpec

variable {spec spec' : TypeSpec}

theorem Written.text (written : spec.Written cs) : spec.Written spec.text.toList := by
  obtain ⟨_, _, _, based, shaped⟩ := written
  exact ⟨_, _, String.toList_append, based.text, shaped.text⟩

theorem read?_eq_some_iff : read? cs = some spec ↔ spec.Written cs := by
  constructor
  · intro read
    obtain ⟨⟨base, shape⟩, shaped, based⟩ := Option.bind_eq_some_iff.mp read
    obtain ⟨found, named, rfl⟩ := Option.map_eq_some_iff.mp based
    obtain ⟨suffix, rfl, suffixed⟩ := exists_suffix_of_readShape? shaped
    exact ⟨base, suffix, rfl, readBase?_eq_some_iff.mp named, suffixed⟩
  · rintro ⟨base, suffix, rfl, based, shaped⟩
    rw [read?, readShape?_append shaped based.unclosed, Option.bind_some,
      readBase?_eq_some_iff.mpr based]
    rfl

theorem parse_eq_ok_iff : parse cs = .ok spec ↔ spec.Written cs := by
  rw [← read?_eq_some_iff, parse]
  cases read? cs <;> simp

theorem parse_eq_error_iff {e : DefinitionError} :
    parse cs = .error e ↔
      (¬ ∃ spec : TypeSpec, spec.Written cs) ∧ e = .badType (String.ofList cs) := by
  simp only [← read?_eq_some_iff, parse]
  cases read? cs <;> simp [eq_comm]

/-- A specification that is read is read again from its text. -/
theorem parse_text (read : parse cs = .ok spec) : parse spec.text.toList = .ok spec :=
  parse_eq_ok_iff.mpr (parse_eq_ok_iff.mp read).text

/-- What is read is what the grammar says, all else is refused as a whole, and the texts of
specifications that were read are read back and tell them apart. -/
theorem parse_written (cs : List Char) :
    (∀ spec, parse cs = .ok spec ↔ spec.Written cs) ∧
      (∀ e, parse cs = .error e ↔
        (¬ ∃ spec : TypeSpec, spec.Written cs) ∧ e = .badType (String.ofList cs)) ∧
        ∀ spec, parse cs = .ok spec → parse spec.text.toList = .ok spec ∧
          ∀ other spec', parse other = .ok spec' → spec.text = spec'.text → spec = spec' := by
  refine ⟨fun _ => parse_eq_ok_iff, fun _ => parse_eq_error_iff, fun spec read => ?_⟩
  have again := parse_text read
  refine ⟨again, fun other spec' read' same => ?_⟩
  have again' := parse_text read'
  rw [← same, again] at again'
  exact Except.ok.inj again'

example : parse "geo/Point[+03]".toList = .ok ⟨.named (some "geo") "Point", .fixed 3⟩ := by
  decide +kernel

end TypeSpec

end TopicBridge.Message
