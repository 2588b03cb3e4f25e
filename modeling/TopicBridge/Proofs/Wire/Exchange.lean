import TopicBridge.Proofs.Wire.Fault
import TopicBridge.Proofs.Wire.Filled

/-!
# Numbers of either kind inside a message

Where a message has an integer, a script may give a floating-point number that stands for
one.  What is written does not depend on which of the two is given, at any depth of the
message, and neither does the error if the message is refused for some other reason.  A number
that stands for no integer is refused there.
-/

namespace TopicBridge

open Message Number Wire

/-- The builtin types that take an integer. -/
def Message.Builtin.TakesInteger : Builtin → Prop
  | .bool => True
  | .int _ => True
  | .uint _ => True
  | _ => False

section Exchanges

variable (given taken : Value)

mutual

/-- Two values of an element differ at no more than one place, where the element has an integer:
there the first has what is given, and the second what is taken for it. -/
inductive ElementType.Exchanges : ElementType → Value → Value → Prop
  | integer {builtin : Builtin} (wanted : builtin.TakesInteger) :
      ElementType.Exchanges (.builtin builtin) given taken
  /-- The place is a part of a time stamp. -/
  | part {builtin : Builtin} {entries : Dict String Value} {name : String}
      (stamp : builtin = .time ∨ builtin = .duration) :
      ElementType.Exchanges (.builtin builtin) (.table (Dict.insert entries name given))
        (.table (Dict.insert entries name taken))
  /-- The place is inside the field of some name. -/
  | field {schema : Schema} {entries : Dict String Value} {name : String} {value other : Value}
      (inside : ∀ field ∈ schema.fields, field.name = name → field.Exchanges value other) :
      ElementType.Exchanges (.message schema) (.table (Dict.insert entries name value))
        (.table (Dict.insert entries name other))

/-- Two values of a field differ in this way. -/
inductive Field.Exchanges : Field → Value → Value → Prop
  | single {name : String} {type : ElementType} {value other : Value}
      (inside : type.Exchanges value other) : Field.Exchanges ⟨name, type, .single⟩ value other
  | item {name : String} {type : ElementType} {shape : Shape} {before after : List Value}
      {value other : Value} (array : shape ≠ .single) (inside : type.Exchanges value other) :
      Field.Exchanges ⟨name, type, shape⟩ (.array (before ++ value :: after))
        (.array (before ++ other :: after))

end

end Exchanges

/-! ## Writing either value -/

section Readers

variable {given taken : Value} {word : Int64}

/-- An integer is read off a value, and nothing else of it is looked at. -/
theorem integerAt_exchange (found : given.asInt? = some word) (again : taken.asInt? = some word)
    (range : Range) (path : String) :
    integerAt range (some given) path = integerAt range (some taken) path := by
  simp only [integerAt, found, again]

/-- A number is true unless it is zero, whichever kind it is of. -/
theorem truthAt_of_asInt? (found : given.asInt? = some word) (path : String) :
    truthAt (some given) path = .ok (word != 0) := by
  cases given with
  | int i =>
      cases found
      rfl
  | float x => simp only [truthAt, found]
  | _ => cases found

/-- Which keys a table has does not depend on what is under them. -/
theorem keys_insert_exchange (entries : Dict String Value) (name : String) (value other : Value) :
    Dict.keys (Dict.insert entries name value) = Dict.keys (Dict.insert entries name other) := by
  unfold Dict.keys
  induction entries with
  | nil => rfl
  | cons entry rest ih =>
      obtain ⟨key, old⟩ := entry
      rw [Dict.insert, Dict.insert]
      split
      · rfl
      · rw [List.map_cons, List.map_cons, ih]

theorem unknownKey?_exchange (isKnown : String → Bool) (entries : Dict String Value)
    (name : String) (value other : Value) :
    unknownKey? isKnown (Dict.insert entries name value) =
      unknownKey? isKnown (Dict.insert entries name other) := by
  rw [unknownKey?, unknownKey?, keys_insert_exchange]

/-- The place may be either part of a time stamp, or a key that is refused with both
values. -/
theorem stampAt_exchange (found : given.asInt? = some word) (again : taken.asInt? = some word)
    (range : Range) (entries : Dict String Value) (name path : String) :
    stampAt range (some (.table (Dict.insert entries name given))) path =
      stampAt range (some (.table (Dict.insert entries name taken))) path := by
  have read (part place : String) :
      integerAt range (Dict.get? (Dict.insert entries name given) part) place =
        integerAt range (Dict.get? (Dict.insert entries name taken) part) place := by
    rw [Dict.get?_insert, Dict.get?_insert]
    split
    · exact integerAt_exchange found again range place
    · rfl
  simp only [stampAt, Value.entries?, unknownKey?_exchange _ entries name given taken, read]

/-- A builtin type that takes an integer asks its value for nothing but the integer. -/
theorem encodeBuiltin_exchange {builtin : Builtin} (wanted : builtin.TakesInteger)
    (found : given.asInt? = some word) (again : taken.asInt? = some word) (path : String) :
    encodeBuiltin builtin (some given) path = encodeBuiltin builtin (some taken) path := by
  cases builtin with
  | bool => rw [encodeBuiltin, encodeBuiltin, truthAt_of_asInt? found, truthAt_of_asInt? again]
  | int width => rw [encodeBuiltin, encodeBuiltin, integerAt_exchange found again]
  | uint width => rw [encodeBuiltin, encodeBuiltin, integerAt_exchange found again]
  | _ => cases wanted

theorem encodeBuiltin_stamp_exchange {builtin : Builtin}
    (stamp : builtin = .time ∨ builtin = .duration) (found : given.asInt? = some word)
    (again : taken.asInt? = some word) (entries : Dict String Value) (name path : String) :
    encodeBuiltin builtin (some (.table (Dict.insert entries name given))) path =
      encodeBuiltin builtin (some (.table (Dict.insert entries name taken))) path := by
  rcases stamp with rfl | rfl
  · rw [encodeBuiltin, encodeBuiltin, stampAt_exchange found again]
  · rw [encodeBuiltin, encodeBuiltin, stampAt_exchange found again]

end Readers

section Arrays

variable {element : Option Value → Except WireError Builder} {value other : Value}

/-- The items beside the place are the same in both arrays. -/
theorem encodeItems_exchange (same : element (some value) = element (some other))
    (before after : List Value) :
    encodeItems (fun item => element (some item)) (before ++ value :: after) =
      encodeItems (fun item => element (some item)) (before ++ other :: after) := by
  rw [encodeItems, encodeItems, List.mapM_append, List.mapM_append, List.mapM_cons,
    List.mapM_cons, same]

/-- The arrays are as long as each other, so both have room or neither has. -/
theorem encodeShape_exchange (type : ElementType) {shape : Shape} (array : shape ≠ .single)
    (same : element (some value) = element (some other)) (before after : List Value)
    (path : String) :
    encodeShape type element shape (some (.array (before ++ value :: after))) path =
      encodeShape type element shape (some (.array (before ++ other :: after))) path := by
  have counted : (before ++ value :: after).length = (before ++ other :: after).length := by simp
  cases shape with
  | single => exact absurd rfl array
  | sequence => simp only [encodeShape, encodeSequence, counted, encodeItems_exchange same]
  | fixed length => simp only [encodeShape, encodeFixed, counted, encodeItems_exchange same]

end Arrays

/-- Fields may be looked up in another table, if each has the same outcome there. -/
theorem encodeFields_congr {fields : List Field} {entries table : Dict String Value}
    {path : String} (same : ∀ field ∈ fields, field.encode entries path = field.encode table path) :
    encodeFields fields entries path = encodeFields fields table path := by
  induction fields with
  | nil => rfl
  | cons field rest ih =>
      rw [encodeFields, encodeFields, same field List.mem_cons_self,
        ih fun other member => same other (List.mem_cons_of_mem _ member)]

section Elements

variable {given taken : Value} {word : Int64}

mutual

/-- Either value has the same outcome, also if it is an error. -/
theorem ElementType.Exchanges.encode_eq (found : given.asInt? = some word)
    (again : taken.asInt? = some word) : ∀ {type : ElementType} {value other : Value},
      type.Exchanges given taken value other → ∀ path : String,
        type.encode (some value) path = type.encode (some other) path
  | .builtin _, _, _, .integer wanted, path => by
      rw [ElementType.encode, ElementType.encode, encodeBuiltin_exchange wanted found again]
  | .builtin _, _, _, .part stamp, path => by
      rw [ElementType.encode, ElementType.encode,
        encodeBuiltin_stamp_exchange stamp found again]
  | .message ⟨title, fields, constants⟩, _, _,
      @ElementType.Exchanges.field _ _ _ entries name value other inside, path => by
      have written : ∀ field ∈ fields,
          field.encode (Dict.insert entries name value) path =
            field.encode (Dict.insert entries name other) path := by
        intro field member
        by_cases same : field.name = name
        · have present (item : Value) :
              Dict.get? (Dict.insert entries name item) field.name = some item := by
            rw [same, Dict.get?_insert_self]
          exact (inside field member same).encode_eq found again (present value) (present other)
            path
        · apply field.encode_congr
          rw [Dict.get?_insert, Dict.get?_insert, if_neg (Ne.symm same), if_neg (Ne.symm same)]
      simp only [ElementType.encode, Schema.encodeAt, Value.entries?,
        unknownKey?_exchange _ entries name value other, encodeFields_congr written]
termination_by structural _ _ _ exchanges => exchanges

/-- A field looks up nothing but its own name. -/
theorem Field.Exchanges.encode_eq (found : given.asInt? = some word)
    (again : taken.asInt? = some word) : ∀ {field : Field} {value other : Value},
      field.Exchanges given taken value other → ∀ {entries table : Dict String Value},
        Dict.get? entries field.name = some value → Dict.get? table field.name = some other →
          ∀ path : String, field.encode entries path = field.encode table path
  | ⟨_, _, _⟩, _, _, .single inside, _, _, present, presentOther, path => by
      rw [Field.encode, Field.encode, present, presentOther]
      exact inside.encode_eq found again _
  | ⟨_, type, _⟩, _, _, .item array inside, _, _, present, presentOther, path => by
      rw [Field.encode, Field.encode, present, presentOther]
      exact encodeShape_exchange type array (inside.encode_eq found again _) _ _ _
termination_by structural _ _ _ exchanges => exchanges

end

end Elements

/-! ## Refusing a value -/

section Refusal

variable {given taken : Value}

theorem mem_keys_insert_self (entries : Dict String Value) (name : String) (value : Value) :
    name ∈ Dict.keys (Dict.insert entries name value) := by
  rw [Dict.mem_keys_iff, Dict.get?_insert_self]
  rfl

/-- A truth value stands for no integer, but a truth field takes it, so it is left out
here. -/
theorem Message.Builtin.Conforms.denotes {builtin : Builtin} (wanted : builtin.TakesInteger)
    (plain : given.asBool? = none) (conforms : builtin.Conforms given) :
    ∃ i, given.Denotes i := by
  cases builtin with
  | bool =>
      obtain ⟨_, rfl⟩ | denoted := conforms
      · cases plain
      · exact denoted
  | int width => exact conforms.imp fun _ inside => inside.1
  | uint width => exact conforms.imp fun _ inside => inside.1
  | _ => cases wanted

/-- Both parts of a time stamp are integers. -/
theorem Value.IsStampIn.denotes {range : Range} {entries : Dict String Value} {name : String}
    (stamp : (Value.table (Dict.insert entries name given)).IsStampIn range) :
    ∃ i, given.Denotes i := by
  obtain ⟨_, table, known, sec, nsec⟩ := stamp
  cases table
  have present := Dict.get?_insert_self entries name given
  obtain rfl | rfl := known name (mem_keys_insert_self entries name given)
  · exact (sec given present).imp fun _ inside => inside.1
  · exact (nsec given present).imp fun _ inside => inside.1

theorem FieldsConform.of_mem {fields : List Field} {entries : Dict String Value}
    (conform : FieldsConform fields entries) {field : Field} (member : field ∈ fields) :
    field.Conforms entries := by
  induction fields with
  | nil => cases member
  | cons first rest ih =>
      rcases List.mem_cons.mp member with rfl | later
      · exact conform.1
      · exact ih conform.2 later

mutual

/-- A value that a message has in the place of an integer stands for one, if the message
conforms. -/
theorem ElementType.Exchanges.denotes (plain : given.asBool? = none) :
    ∀ {type : ElementType} {value other : Value}, type.Exchanges given taken value other →
      type.Conforms value → ∃ i, given.Denotes i
  | .builtin _, _, _, .integer wanted, conforms => Builtin.Conforms.denotes wanted plain conforms
  | .builtin _, _, _, .part stamp, conforms => by
      rcases stamp with rfl | rfl
      · exact Value.IsStampIn.denotes conforms
      · exact Value.IsStampIn.denotes conforms
  | .message ⟨_, fields, _⟩, _, _,
      @ElementType.Exchanges.field _ _ _ entries name value _ inside, conforms => by
      obtain ⟨_, table, known, conform⟩ := conforms
      cases table
      obtain ⟨field, member, same⟩ := known name (mem_keys_insert_self entries name value)
      apply (inside field member same).denotes plain (conform.of_mem member)
      rw [same, Dict.get?_insert_self]
termination_by structural _ _ _ exchanges => exchanges

theorem Field.Exchanges.denotes (plain : given.asBool? = none) :
    ∀ {field : Field} {value other : Value}, field.Exchanges given taken value other →
      ∀ {entries : Dict String Value}, field.Conforms entries →
        Dict.get? entries field.name = some value → ∃ i, given.Denotes i
  | ⟨_, _, _⟩, _, _, .single inside, _, conforms, present =>
      inside.denotes plain (conforms _ present)
  | ⟨_, _, .fixed _⟩, _, _, .item _ inside, _, conforms, present => by
      obtain ⟨_, same, _, each⟩ | ⟨_, same, _⟩ := conforms _ present
      · cases same
        exact inside.denotes plain (each _ (List.mem_append_right _ List.mem_cons_self))
      · cases same
  | ⟨_, _, .sequence⟩, _, _, .item _ inside, _, conforms, present => by
      obtain ⟨_, same, _, _, each⟩ | ⟨_, same, _⟩ := conforms _ present
      · cases same
        exact inside.denotes plain (each _ (List.mem_append_right _ List.mem_cons_self))
      · cases same
  | ⟨_, _, .single⟩, _, _, .item array _, _, _, _ => absurd rfl array
termination_by structural _ _ _ exchanges => exchanges

end

end Refusal

end TopicBridge
