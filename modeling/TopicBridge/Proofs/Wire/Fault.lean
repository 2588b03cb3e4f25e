import TopicBridge.Proofs.Wire.Layout
import TopicBridge.Wire.Encode

/-!
# Conforming values and faults

Which values a type takes is said here without writing anything, and so is what is
wrong with any other value.  The faults of a value are listed in the order in which
a walk through it meets them: an unknown key of a table before its fields, the
fields in wire order, and an array that is too long before its items.  Each fault
names its place by the path from the top, in which the items of an array share the
path of the array.

A value without faults conforms.
-/

namespace TopicBridge

open Message Number Text Wire

/-! ## Conforming values -/

/-- The value is a number that has an integer which a script can hold. -/
def Value.Denotes (value : Value) (i : Int) : Prop :=
  match value with
  | .int word => word.toInt = i
  | .float x => x.toInt? = some i ∧ -2 ^ 63 ≤ i ∧ i < 2 ^ 63
  | _ => False

/-- The value is an integer in a range. -/
def Value.IsIntegerIn (value : Value) (range : Range) : Prop :=
  ∃ i, value.Denotes i ∧ range.low ≤ i ∧ i < range.high

/-- The value is a number of either kind. -/
def Value.IsNumber (value : Value) : Prop :=
  match value with
  | .int _ => True
  | .float _ => True
  | _ => False

/-- The value is a table, or the empty array, that has no other parts than those of a
time stamp, and these in a range. -/
def Value.IsStampIn (value : Value) (range : Range) : Prop :=
  ∃ entries, Value.entries? (some value) = some entries ∧
    (∀ key ∈ Dict.keys entries, key = "sec" ∨ key = "nsec") ∧
    (∀ part, Dict.get? entries "sec" = some part → part.IsIntegerIn range) ∧
    ∀ part, Dict.get? entries "nsec" = some part → part.IsIntegerIn range

/-- The value can stand for a builtin element. -/
def Message.Builtin.Conforms (builtin : Builtin) (value : Value) : Prop :=
  match builtin with
  | .bool => (∃ b, value = .bool b) ∨ ∃ i, value.Denotes i
  | .int width => value.IsIntegerIn (signedRange width)
  | .uint width => value.IsIntegerIn (unsignedRange width)
  | .float32 => value.IsNumber
  | .float64 => value.IsNumber
  | .string => ∃ text, value = .string text ∧ text.utf8ByteSize < 2 ^ 32
  | .time => value.IsStampIn (unsignedRange .w32)
  | .duration => value.IsStampIn (signedRange .w32)

/-- The value can stand for a field of some shape, given which values can stand for its
elements. -/
def Message.Shape.Conforms (type : ElementType) (element : Value → Prop) (shape : Shape)
    (value : Value) : Prop :=
  match shape with
  | .single => element value
  | .sequence =>
      (∃ items, value = .array items ∧
        (type.isWeightless = true → items.length ≤ maxEmptyElements) ∧ items.length < 2 ^ 32 ∧
        ∀ item ∈ items, element item) ∨
      ∃ text, value = .string text ∧ type.isByte = true ∧ text.utf8ByteSize < 2 ^ 32
  | .fixed length =>
      (∃ items, value = .array items ∧ items.length ≤ length ∧ ∀ item ∈ items, element item) ∨
      ∃ text, value = .string text ∧ type.isByte = true ∧ text.utf8ByteSize ≤ length

mutual

/-- The value can stand for an element. -/
def ElementType.Conforms : ElementType → Value → Prop
  | .builtin b, value => b.Conforms value
  | .message schema, value => schema.Conforms value
termination_by structural type => type

/-- The value is a table, or the empty array, that has no other keys than the fields of
the message, and these with conforming values. -/
def Schema.Conforms : Schema → Value → Prop
  | ⟨_, fields, _⟩, value =>
      ∃ entries, Value.entries? (some value) = some entries ∧
        (∀ key ∈ Dict.keys entries, ∃ field ∈ fields, field.name = key) ∧
        FieldsConform fields entries
termination_by structural schema => schema

def FieldsConform : List Field → Dict String Value → Prop
  | [], _ => True
  | field :: rest, entries => field.Conforms entries ∧ FieldsConform rest entries
termination_by structural fields => fields

/-- The field is missing, or its value conforms. -/
def Field.Conforms : Field → Dict String Value → Prop
  | ⟨name, type, shape⟩, entries =>
      ∀ value, Dict.get? entries name = some value → shape.Conforms type type.Conforms value
termination_by structural field => field

end

/-- An explicit nil does not stand for what is missing. -/
theorem Message.Builtin.not_conforms_nil (builtin : Builtin) : ¬ builtin.Conforms .nil := by
  cases builtin with
  | bool =>
      rintro (⟨_, same⟩ | ⟨_, denotes⟩)
      · cases same
      · cases denotes
  | int width => exact fun ⟨_, denotes, _⟩ => denotes
  | uint width => exact fun ⟨_, denotes, _⟩ => denotes
  | float32 => exact id
  | float64 => exact id
  | string => exact fun ⟨_, same, _⟩ => nomatch same
  | time => exact fun ⟨_, given, _⟩ => nomatch given
  | duration => exact fun ⟨_, given, _⟩ => nomatch given

theorem Field.not_conforms_nil {field : Field} {entries : Dict String Value}
    (given : Dict.get? entries field.name = some .nil) : ¬ field.Conforms entries := by
  rcases field with ⟨name, type, shape⟩
  intro conforms
  have stands := conforms .nil given
  cases shape with
  | single =>
      cases type with
      | builtin b => exact b.not_conforms_nil stands
      | message schema =>
          rcases schema with ⟨_, _, _⟩
          obtain ⟨_, table, _⟩ := stands
          cases table
  | sequence => rcases stands with ⟨_, same, _⟩ | ⟨_, same, _⟩ <;> cases same
  | fixed length => rcases stands with ⟨_, same, _⟩ | ⟨_, same, _⟩ <;> cases same

/-! ## Faults -/

namespace Wire

/-- What is wrong with an integer. -/
def integerFaults (range : Range) (value : Value) (path : String) : List WireError :=
  match value.asInt? with
  | none => [.typeMismatch path .integer]
  | some i => if range.low ≤ i.toInt ∧ i.toInt < range.high then [] else [.outOfRange path]

/-- What is wrong with a count of bytes or elements. -/
def countFaults (count : Nat) (path : String) : List WireError :=
  if count < 2 ^ 32 then [] else [.outOfRange path]

/-- What is wrong with an array or a text that has a limit. -/
def lengthFaults (limit actual : Nat) (path : String) : List WireError :=
  if actual ≤ limit then [] else [.arrayLength path limit actual]

/-- The keys that should not be there. -/
def unknownFaults (isKnown : String → Bool) (entries : Dict String Value) (path : String) :
    List WireError :=
  ((Dict.keys entries).filter fun key => !isKnown key).map fun key =>
    .unexpectedField (joinPath path key)

/-- What is wrong with the value of a key, if it has one. -/
def entryFaults (faults : Value → String → List WireError) (entries : Dict String Value)
    (path name : String) : List WireError :=
  match Dict.get? entries name with
  | none => []
  | some value => faults value (joinPath path name)

/-- What is wrong with a time stamp. -/
def stampFaults (range : Range) (value : Value) (path : String) : List WireError :=
  match Value.entries? (some value) with
  | none => [.typeMismatch path .table]
  | some entries =>
      unknownFaults (fun key => key == "sec" || key == "nsec") entries path ++
        (entryFaults (integerFaults range) entries path "sec" ++
          entryFaults (integerFaults range) entries path "nsec")

end Wire

/-- What is wrong with a builtin element. -/
def Message.Builtin.faults (builtin : Builtin) (value : Value) (path : String) : List WireError :=
  match builtin, value with
  | .bool, .bool _ => []
  | .bool, value => if value.asInt?.isSome then [] else [.typeMismatch path .boolean]
  | .int width, value => integerFaults (signedRange width) value path
  | .uint width, value => integerFaults (unsignedRange width) value path
  | .float32, value => if value.asFloat?.isSome then [] else [.typeMismatch path .number]
  | .float64, value => if value.asFloat?.isSome then [] else [.typeMismatch path .number]
  | .string, .string text => countFaults text.utf8ByteSize path
  | .string, _ => [.typeMismatch path .string]
  | .time, value => stampFaults (unsignedRange .w32) value path
  | .duration, value => stampFaults (signedRange .w32) value path

/-- What is wrong with a field of some shape, given what is wrong with its elements. -/
def Message.Shape.faults (type : ElementType) (element : Value → List WireError) (shape : Shape)
    (value : Value) (path : String) : List WireError :=
  match shape, value with
  | .single, value => element value
  | .sequence, .array items =>
      (if type.isWeightless then lengthFaults maxEmptyElements items.length path else []) ++
        (countFaults items.length path ++ items.flatMap element)
  | .sequence, .string text =>
      if type.isByte then countFaults text.utf8ByteSize path else [.typeMismatch path .array]
  | .fixed length, .array items => lengthFaults length items.length path ++ items.flatMap element
  | .fixed length, .string text =>
      if type.isByte then lengthFaults length text.utf8ByteSize path
      else [.typeMismatch path .array]
  | _, _ => [.typeMismatch path .array]

mutual

/-- What is wrong with an element. -/
def ElementType.faults : ElementType → Value → String → List WireError
  | .builtin b, value, path => b.faults value path
  | .message schema, value, path => schema.faultsAt value path
termination_by structural type => type

/-- What is wrong with a message that stands at a path.  At the top, a value that is no
table is blamed on the type. -/
def Schema.faultsAt : Schema → Value → String → List WireError
  | ⟨name, fields, _⟩, value, path =>
      match Value.entries? (some value) with
      | none => [.typeMismatch (if path.isEmpty then name else path) .table]
      | some entries =>
          unknownFaults (fun key => fields.any fun field => field.name == key) entries path ++
            fieldFaults fields entries path
termination_by structural schema => schema

/-- What is wrong with fields, one after another. -/
def fieldFaults : List Field → Dict String Value → String → List WireError
  | [], _, _ => []
  | field :: rest, entries, path => field.faults entries path ++ fieldFaults rest entries path
termination_by structural fields => fields

/-- What is wrong with the value that a field has, if it has one. -/
def Field.faults : Field → Dict String Value → String → List WireError
  | ⟨name, type, shape⟩, entries, path =>
      entryFaults
        (fun value place => shape.faults type (fun item => type.faults item place) value place)
        entries path name
termination_by structural field => field

end

/-- What is wrong with a message. -/
def Schema.faults (schema : Schema) (value : Value) : List WireError :=
  schema.faultsAt value ""

/-! ## A value without faults conforms -/

theorem Value.denotes_iff {value : Value} {i : Int} :
    value.Denotes i ↔ ∃ word, value.asInt? = some word ∧ word.toInt = i := by
  cases value with
  | int word =>
      constructor
      · intro same
        exact ⟨word, rfl, same⟩
      · rintro ⟨_, found, same⟩
        cases found
        exact same
  | float x =>
      constructor
      · rintro ⟨integral, low, high⟩
        have word := Value.wordOfInt?_eq_some_iff.mpr (Int64.toInt_ofInt_of_le low high)
        refine ⟨Int64.ofInt i, ?_, Int64.toInt_ofInt_of_le low high⟩
        exact Option.bind_eq_some_iff.mpr ⟨i, integral, word⟩
      · rintro ⟨word, found, rfl⟩
        obtain ⟨i, integral, held⟩ := Option.bind_eq_some_iff.mp found
        rw [← Value.wordOfInt?_eq_some_iff.mp held] at integral
        exact ⟨integral, word.le_toInt, word.toInt_lt⟩
  | _ => exact ⟨False.elim, fun ⟨_, found, _⟩ => nomatch found⟩

theorem Value.isSome_asInt?_iff {value : Value} :
    value.asInt?.isSome = true ↔ ∃ i, value.Denotes i := by
  simp only [Value.denotes_iff, Option.isSome_iff_exists]
  constructor
  · rintro ⟨word, found⟩
    exact ⟨word.toInt, word, found, rfl⟩
  · rintro ⟨_, word, found, _⟩
    exact ⟨word, found⟩

theorem integerFaults_eq_nil_iff {range : Range} {value : Value} {path : String} :
    integerFaults range value path = [] ↔ value.IsIntegerIn range := by
  simp only [Value.IsIntegerIn, Value.denotes_iff]
  unfold integerFaults
  cases found : value.asInt? with
  | none => simp
  | some word => simp

theorem countFaults_eq_nil_iff {count : Nat} {path : String} :
    countFaults count path = [] ↔ count < 2 ^ 32 := by
  unfold countFaults
  split <;> simp_all

theorem lengthFaults_eq_nil_iff {limit actual : Nat} {path : String} :
    lengthFaults limit actual path = [] ↔ actual ≤ limit := by
  unfold lengthFaults
  split <;> simp_all

theorem unknownFaults_eq_nil_iff {isKnown : String → Bool} {entries : Dict String Value}
    {path : String} :
    unknownFaults isKnown entries path = [] ↔ ∀ key ∈ Dict.keys entries, isKnown key = true := by
  simp [unknownFaults]

theorem entryFaults_eq_nil_iff {faults : Value → String → List WireError}
    {entries : Dict String Value} {path name : String} :
    entryFaults faults entries path name = [] ↔
      ∀ value, Dict.get? entries name = some value → faults value (joinPath path name) = [] := by
  unfold entryFaults
  cases Dict.get? entries name with
  | none => simp
  | some value => simp

theorem stampFaults_eq_nil_iff {range : Range} {value : Value} {path : String} :
    stampFaults range value path = [] ↔ value.IsStampIn range := by
  unfold stampFaults Value.IsStampIn
  cases Value.entries? (some value) with
  | none => simp
  | some entries =>
      simp [unknownFaults_eq_nil_iff, entryFaults_eq_nil_iff, integerFaults_eq_nil_iff]

theorem Message.Builtin.faults_eq_nil_iff {builtin : Builtin} {value : Value} {path : String} :
    builtin.faults value path = [] ↔ builtin.Conforms value := by
  cases builtin with
  | bool =>
      cases value with
      | bool b => exact iff_of_true rfl (Or.inl ⟨b, rfl⟩)
      | _ => simp [faults, Conforms, ← Value.isSome_asInt?_iff, Option.isSome_iff_ne_none]
  | int width => exact integerFaults_eq_nil_iff
  | uint width => exact integerFaults_eq_nil_iff
  | float32 => cases value <;> simp [faults, Conforms, Value.asFloat?, Value.IsNumber]
  | float64 => cases value <;> simp [faults, Conforms, Value.asFloat?, Value.IsNumber]
  | string => cases value <;> simp [faults, Conforms, countFaults_eq_nil_iff]
  | time => exact stampFaults_eq_nil_iff
  | duration => exact stampFaults_eq_nil_iff

theorem Message.Shape.faults_eq_nil_iff {type : ElementType} {element : Value → List WireError}
    {conforms : Value → Prop} (each : ∀ value, element value = [] ↔ conforms value) {shape : Shape}
    {value : Value} {path : String} :
    shape.faults type element value path = [] ↔ shape.Conforms type conforms value := by
  cases shape with
  | single => exact each value
  | sequence =>
      cases value with
      | array items =>
          have limited : (if type.isWeightless then
                lengthFaults maxEmptyElements items.length path else []) = [] ↔
              (type.isWeightless = true → items.length ≤ maxEmptyElements) := by
            rw [← @lengthFaults_eq_nil_iff _ _ path]
            split <;> simp_all
          simp [faults, Conforms, limited, countFaults_eq_nil_iff, each]
      | string text =>
          cases isByte : type.isByte <;> simp [faults, Conforms, isByte, countFaults_eq_nil_iff]
      | _ => simp [faults, Conforms]
  | fixed length =>
      cases value with
      | array items => simp [faults, Conforms, lengthFaults_eq_nil_iff, each]
      | string text =>
          cases isByte : type.isByte <;> simp [faults, Conforms, isByte, lengthFaults_eq_nil_iff]
      | _ => simp [faults, Conforms]

mutual

theorem ElementType.faults_eq_nil_iff : ∀ (type : ElementType) (value : Value) (path : String),
    type.faults value path = [] ↔ type.Conforms value
  | .builtin _, _, _ => Builtin.faults_eq_nil_iff
  | .message schema, value, path => schema.faultsAt_eq_nil_iff value path
termination_by structural type => type

theorem Schema.faultsAt_eq_nil_iff : ∀ (schema : Schema) (value : Value) (path : String),
    schema.faultsAt value path = [] ↔ schema.Conforms value
  | ⟨name, fields, constants⟩, value, path => by
      rw [Schema.faultsAt, Schema.Conforms]
      cases Value.entries? (some value) with
      | none => simp
      | some entries =>
          have conform := fieldFaults_eq_nil_iff fields entries path
          simp [unknownFaults_eq_nil_iff, conform]
termination_by structural schema => schema

theorem fieldFaults_eq_nil_iff : ∀ (fields : List Field) (entries : Dict String Value)
    (path : String), fieldFaults fields entries path = [] ↔ FieldsConform fields entries
  | [], _, _ => iff_of_true rfl trivial
  | field :: rest, entries, path => by
      rw [fieldFaults, List.append_eq_nil_iff, FieldsConform,
        field.faults_eq_nil_iff entries path, fieldFaults_eq_nil_iff rest entries path]
termination_by structural fields => fields

theorem Field.faults_eq_nil_iff : ∀ (field : Field) (entries : Dict String Value) (path : String),
    field.faults entries path = [] ↔ field.Conforms entries
  | ⟨name, type, shape⟩, entries, path => by
      have each (value : Value) := type.faults_eq_nil_iff value (joinPath path name)
      rw [Field.faults, entryFaults_eq_nil_iff, Field.Conforms]
      simp only [Shape.faults_eq_nil_iff each]
termination_by structural field => field

end

end TopicBridge
