import Mathlib.Data.List.Nodup
import Mathlib.Logic.Relation
import TopicBridge.Proofs.Wire.RoundTrip

/-!
# Filling in defaults

A value may leave out fields of a message, parts of a time stamp and the last
elements of an array of fixed length.  What it leaves out can always be written,
and it is written as its default is.  So a default may be filled in wherever it is
missing, at any level and any number of times: the value is written as the same
bytes.
-/

namespace TopicBridge

open Message Number Text Wire

mutual

/-- A default that an element leaves out is filled in, somewhere inside of it. -/
inductive ElementType.Fills : ElementType → Value → Value → Prop
  /-- A missing field of a message, or part of a time stamp, is added. -/
  | missing {type : ElementType} {value default : Value} {entries : Dict String Value}
      {name : String} (table : Value.entries? (some value) = some entries)
      (absent : Dict.get? entries name = none) (filled : type.default.get? name = some default) :
      ElementType.Fills type value (.table (Dict.insert entries name default))
  /-- The value of a field that is there is filled in. -/
  | within {schema : Schema} {entries : Dict String Value} {field : Field} {value fuller : Value}
      (member : field ∈ schema.fields) (present : Dict.get? entries field.name = some value)
      (fills : field.Fills value fuller) :
      ElementType.Fills (.message schema) (.table entries)
        (.table (Dict.insert entries field.name fuller))

/-- A default that the value of a field leaves out is filled in. -/
inductive Field.Fills : Field → Value → Value → Prop
  | single {name : String} {type : ElementType} {value fuller : Value}
      (fills : type.Fills value fuller) : Field.Fills ⟨name, type, .single⟩ value fuller
  | item {name : String} {type : ElementType} {shape : Shape} {before after : List Value}
      {item fuller : Value} (array : shape ≠ .single) (fills : type.Fills item fuller) :
      Field.Fills ⟨name, type, shape⟩ (.array (before ++ item :: after))
        (.array (before ++ fuller :: after))
  /-- An array of fixed length that is too short is made longer. -/
  | lengthened {name : String} {type : ElementType} {length more : Nat} {items : List Value}
      (short : items.length + more ≤ length) :
      Field.Fills ⟨name, type, .fixed length⟩ (.array items)
        (.array (items ++ List.replicate more type.default))

end

/-- Any number of defaults are filled in, one after another. -/
def Schema.Filled (schema : Schema) : Value → Value → Prop :=
  Relation.ReflTransGen (ElementType.message schema).Fills

/-! ## What is missing can be written -/

/-- Writing succeeds with some number of bytes. -/
def WritesLength (written : Except WireError Builder) (length : Nat) : Prop :=
  ∃ bytes, Writes written bytes ∧ bytes.length = length

theorem WritesLength.exists_ok {written : Except WireError Builder} {length : Nat}
    (wrote : WritesLength written length) : ∃ builder, written = .ok builder := by
  obtain ⟨_, ⟨builder, done, _⟩, _⟩ := wrote
  exact ⟨builder, done⟩

/-- A missing builtin element can be written, and a missing text has a length word and
nothing else. -/
theorem Message.Builtin.encode_none (builtin : Builtin) (path : String) :
    ∃ bytes, encodeBuiltin builtin none path = .ok bytes ∧ bytes.length = builtin.leastSize := by
  cases builtin with
  | int width => exact ⟨_, rfl, length_littleEndianInt width.bytes 0⟩
  | uint width => exact ⟨_, rfl, length_littleEndianInt width.bytes 0⟩
  | _ => exact ⟨_, rfl, rfl⟩

/-- As many missing elements as there may be can be written, if one can. -/
theorem writes_replicate {element : Option Value → Except WireError Builder} {least : Nat}
    (written : WritesLength (element none) least) (length : Nat) :
    WritesLength (encodeItems element (List.replicate length none)) (length * least) := by
  induction length with
  | zero => exact ⟨[], writes_nil_iff.mpr rfl, (Nat.zero_mul least).symm⟩
  | succ length ih =>
      obtain ⟨first, head, one⟩ := written
      obtain ⟨rest, tail, others⟩ := ih
      refine ⟨first ++ rest, writes_cons_iff.mpr ⟨first, rest, head, tail, rfl⟩, ?_⟩
      rw [List.length_append, one, others, Nat.succ_mul, Nat.add_comm]

theorem writes_shape_none (name : String) {type : ElementType}
    (element : Option Value → Except WireError Builder) (shape : Shape) (path : String)
    (written : WritesLength (element none) type.leastBytes) :
    WritesLength (encodeShape type element shape none path)
      (Field.leastBytes ⟨name, type, shape⟩) := by
  cases shape with
  | single => exact written
  | sequence => exact ⟨_, ⟨_, rfl, rfl⟩, rfl⟩
  | fixed length => exact writes_replicate written length

mutual

/-- A missing element of any type can be written, and takes as few bytes as its type
allows. -/
theorem ElementType.writes_none : ∀ (type : ElementType) (path : String),
    WritesLength (type.encode none path) type.leastBytes
  | .builtin b, path => by
      obtain ⟨bytes, encoded, least⟩ := b.encode_none path
      exact ⟨bytes, writes_map_chunk_iff.mpr encoded, least⟩
  | .message schema, path => schema.writes_none path
termination_by structural type => type

theorem Schema.writes_none : ∀ (schema : Schema) (path : String),
    WritesLength (schema.encodeAt none path) schema.leastBytes
  | ⟨_, fields, _⟩, path => writes_fields_nil fields path
termination_by structural schema => schema

theorem writes_fields_nil : ∀ (fields : List Field) (path : String),
    WritesLength (encodeFields fields [] path) (leastBytesOf fields)
  | [], _ => ⟨[], ⟨_, rfl, rfl⟩, rfl⟩
  | field :: rest, path => by
      obtain ⟨_, ⟨first, wrote, rfl⟩, one⟩ := field.writes_none path
      obtain ⟨_, ⟨later, wroteRest, rfl⟩, others⟩ := writes_fields_nil rest path
      refine ⟨_, ⟨first.append later,
        bind_eq_ok_iff.mpr ⟨first, wrote, bind_eq_ok_iff.mpr ⟨later, wroteRest, rfl⟩⟩, rfl⟩, ?_⟩
      rw [Builder.toBytes_append, List.length_append, one, others, leastBytesOf]
termination_by structural fields => fields

theorem Field.writes_none : ∀ (field : Field) (path : String),
    WritesLength (field.encode [] path) field.leastBytes
  | ⟨name, type, shape⟩, path =>
      writes_shape_none name (fun value => type.encode value (joinPath path name)) shape
        (joinPath path name) (type.writes_none (joinPath path name))
termination_by structural field => field

end

/-- The default of a message can be written, whichever way it is left out or spelled
out. -/
theorem Schema.encode_default {schema : Schema} (distinct : schema.NamesDistinct) :
    ∃ bytes, schema.encode (.table []) = .ok bytes ∧ schema.encode (.array []) = .ok bytes ∧
      schema.encode schema.default = .ok bytes := by
  obtain ⟨_, ⟨builder, written, rfl⟩, _⟩ := schema.writes_none ""
  have table : schema.encode (.table []) = .ok builder.toBytes := by
    cases schema with
    | mk name fields constants => exact congrArg (Except.map Builder.toBytes) written
  have array : schema.encode (.array []) = .ok builder.toBytes := by
    cases schema with
    | mk name fields constants => exact congrArg (Except.map Builder.toBytes) written
  have spelled := (Schema.layout_normal distinct array).2
  rw [schema.normal_empty] at spelled
  exact ⟨_, table, array, spelled⟩

/-! ## Filling in changes nothing -/

/-- A known key that is written down leaves a table without unknown keys. -/
theorem unknownKey?_insert {isKnown : String → Bool} {key : String} (known : isKnown key = true)
    (entries : Dict String Value) (value : Value) :
    unknownKey? isKnown (Dict.insert entries key value) = unknownKey? isKnown entries := by
  unfold unknownKey? Dict.keys
  induction entries with
  | nil => simp [Dict.insert, known]
  | cons entry rest ih =>
      obtain ⟨k, a⟩ := entry
      rw [Dict.insert]
      split
      · rfl
      · rw [List.map_cons, List.map_cons, List.find?_cons, List.find?_cons, ih]

section Items

variable {element : Option Value → Except WireError Builder} {item fuller : Option Value}
  {items others : List (Option Value)} {bytes : Bytes}

/-- One item may be exchanged for another that is written the same. -/
theorem writes_exchange
    (same : ∀ bytes, Writes (element item) bytes → Writes (element fuller) bytes)
    (written : Writes (encodeItems element (items ++ item :: others)) bytes) :
    Writes (encodeItems element (items ++ fuller :: others)) bytes := by
  obtain ⟨front, back, wrote, later, rfl⟩ := writes_append_iff.mp written
  obtain ⟨first, rest, head, tail, rfl⟩ := writes_cons_iff.mp later
  exact writes_append_iff.mpr ⟨front, first ++ rest, wrote,
    writes_cons_iff.mpr ⟨first, rest, same first head, tail, rfl⟩, rfl⟩

/-- The first of many equal items may be exchanged for others that are written the
same. -/
theorem writes_exchange_replicate
    (same : ∀ bytes, Writes (element item) bytes → Writes (element fuller) bytes) (more left : Nat)
    (written : Writes (encodeItems element (items ++ List.replicate (more + left) item)) bytes) :
    Writes (encodeItems element
      (items ++ (List.replicate more fuller ++ List.replicate left item))) bytes := by
  induction more generalizing items with
  | zero => simpa using written
  | succ more ih =>
      rw [Nat.succ_add, List.replicate_succ, ← List.singleton_append,
        ← List.append_assoc] at written
      have later := ih written
      rw [List.append_assoc, List.singleton_append] at later
      rw [List.replicate_succ, List.cons_append]
      exact writes_exchange same later

end Items

section Arrays

variable {element : Option Value → Except WireError Builder} {bytes : Bytes}

/-- An item of an array may be exchanged for another that is written the same. -/
theorem writes_array_exchange (type : ElementType) {shape : Shape} (array : shape ≠ .single)
    {before after : List Value} {item fuller : Value}
    (same : ∀ bytes, Writes (element (some item)) bytes → Writes (element (some fuller)) bytes)
    {path : String}
    (written : Writes
      (encodeShape type element shape (some (.array (before ++ item :: after))) path) bytes) :
    Writes (encodeShape type element shape (some (.array (before ++ fuller :: after))) path)
      bytes := by
  have counted : (before ++ fuller :: after).length = (before ++ item :: after).length := by simp
  cases shape with
  | single => exact absurd rfl array
  | sequence =>
      obtain ⟨limited, fits, rest, wrote, rfl⟩ := writes_sequence_iff.mp written
      rw [← counted] at limited fits ⊢
      refine writes_sequence_iff.mpr ⟨limited, fits, rest, ?_, rfl⟩
      rw [List.map_append, List.map_cons] at wrote ⊢
      exact writes_exchange same wrote
  | fixed length =>
      rw [encodeShape] at written ⊢
      obtain ⟨short, wrote⟩ := writes_fixed_iff.mp written
      rw [← counted] at short wrote
      apply writes_fixed_iff.mpr
      refine ⟨short, ?_⟩
      rw [List.map_append, List.map_cons, List.append_assoc, List.cons_append] at wrote ⊢
      exact writes_exchange same wrote

/-- An array of fixed length may be lengthened by what a missing item is written as. -/
theorem writes_fixed_lengthened {type : ElementType} {default : Value}
    (same : ∀ bytes, Writes (element none) bytes → Writes (element (some default)) bytes)
    {items : List Value} {length more : Nat} (short : items.length + more ≤ length) {path : String}
    (written : Writes (encodeFixed type element length (some (.array items)) path) bytes) :
    Writes (encodeFixed type element length
      (some (.array (items ++ List.replicate more default))) path) bytes := by
  obtain ⟨_, wrote⟩ := writes_fixed_iff.mp written
  have counted : (items ++ List.replicate more default).length = items.length + more := by simp
  have left : length - items.length = more + (length - (items.length + more)) := by omega
  rw [left] at wrote
  apply writes_fixed_iff.mpr
  rw [counted, List.map_append, List.map_replicate, List.append_assoc]
  exact ⟨short, writes_exchange_replicate same more _ wrote⟩

end Arrays

/-- Fields may be looked up in another table, if each is written the same from it. -/
theorem writes_fields_congr {fields : List Field} {entries table : Dict String Value}
    {path : String} {bytes : Bytes}
    (same : ∀ field ∈ fields, ∀ bytes, Writes (field.encode entries path) bytes →
      Writes (field.encode table path) bytes)
    (written : Writes (encodeFields fields entries path) bytes) :
    Writes (encodeFields fields table path) bytes := by
  induction fields generalizing bytes with
  | nil => exact written
  | cons field rest ih =>
      rcases written with ⟨builder, written, rfl⟩
      rcases bind_eq_ok_iff.mp written with ⟨first, wrote, written⟩
      rcases bind_eq_ok_iff.mp written with ⟨later, wroteRest, done⟩
      cases done
      obtain ⟨head, wroteHead, sameHead⟩ :=
        same field List.mem_cons_self first.toBytes ⟨first, wrote, rfl⟩
      obtain ⟨tail, wroteTail, sameTail⟩ :=
        ih (fun other member => same other (List.mem_cons_of_mem _ member)) ⟨later, wroteRest, rfl⟩
      refine ⟨head.append tail, ?_, ?_⟩
      · exact bind_eq_ok_iff.mpr ⟨head, wroteHead, bind_eq_ok_iff.mpr ⟨tail, wroteTail, rfl⟩⟩
      · rw [Builder.toBytes_append, Builder.toBytes_append, sameHead, sameTail]

/-- A field is written from its own entry. -/
theorem Field.encode_congr (field : Field) (entries : Dict String Value) {table : Dict String Value}
    (same : Dict.get? table field.name = Dict.get? entries field.name) (path : String) :
    field.encode table path = field.encode entries path := by
  rcases field with ⟨name, type, shape⟩
  rw [Field.encode, Field.encode, same]

/-- A field that is missing is written as its default. -/
theorem Field.writes_default {field : Field} (distinct : field.NamesDistinct)
    {entries table : Dict String Value} {path : String} {bytes : Bytes}
    (absent : Dict.get? entries field.name = none)
    (filled : Dict.get? table field.name = some field.defaultEntry.2)
    (written : Writes (field.encode entries path) bytes) :
    Writes (field.encode table path) bytes := by
  have normal : field.normalEntry entries = field.normalEntry [] := by
    rcases field with ⟨name, type, shape⟩
    rw [Field.normalEntry, Field.normalEntry, absent]
    rfl
  apply (field.settles distinct entries path bytes written).2 table path
  rw [normal, field.normalEntry_nil, filled]

/-- A message is written from any table that has the same unknown keys and from which
each field is written the same. -/
theorem Schema.writes_congr {schema : Schema} {value : Value} {entries table : Dict String Value}
    {path : String} {bytes : Bytes} (given : Value.entries? (some value) = some entries)
    (known : ∀ isKnown : String → Bool, (∀ field ∈ schema.fields, isKnown field.name = true) →
      unknownKey? isKnown table = unknownKey? isKnown entries)
    (same : ∀ field ∈ schema.fields, ∀ bytes, Writes (field.encode entries path) bytes →
      Writes (field.encode table path) bytes)
    (written : Writes (schema.encodeAt (some value) path) bytes) :
    Writes (schema.encodeAt (some (.table table)) path) bytes := by
  rcases schema with ⟨name, fields, constants⟩
  have names := known (fun key => fields.any fun field => field.name == key) fun field member =>
    List.any_eq_true.mpr ⟨field, member, beq_self_eq_true field.name⟩
  simp only [Schema.encodeAt, given] at written
  simp only [Schema.encodeAt, Value.entries?, names]
  split at written
  · rcases written with ⟨_, failed, _⟩
    cases failed
  · exact writes_fields_congr same written

/-! ### Time stamps -/

/-- Zero stands for a missing part of a time stamp. -/
theorem integerAt_zero {range : Range} (zero : range.low ≤ 0 ∧ 0 < range.high) (path : String) :
    integerAt range (some (.int 0)) path = integerAt range none path :=
  integerAt_int zero path

/-- A missing part of a time stamp may be added. -/
theorem stampAt_missing {range : Range} (zero : range.low ≤ 0 ∧ 0 < range.high) {value : Value}
    {entries : Dict String Value} (table : Value.entries? (some value) = some entries)
    {part : String} (isPart : part = "sec" ∨ part = "nsec")
    (absent : Dict.get? entries part = none) (path : String) :
    stampAt range (some (.table (Dict.insert entries part (.int 0)))) path =
      stampAt range (some value) path := by
  have names : unknownKey? (fun key => key == "sec" || key == "nsec")
        (Dict.insert entries part (.int 0)) =
      unknownKey? (fun key => key == "sec" || key == "nsec") entries := by
    apply unknownKey?_insert
    rcases isPart with rfl | rfl <;> rfl
  have read (other place : String) :
      integerAt range (Dict.get? (Dict.insert entries part (.int 0)) other) place =
        integerAt range (Dict.get? entries other) place := by
    rw [Dict.get?_insert]
    split
    · rename_i same
      rw [← same, absent, integerAt_zero zero]
    · rfl
  unfold stampAt
  rw [table]
  simp only [Value.entries?, names, read]

/-- The parts of the default of a builtin element are those of a time stamp. -/
theorem Message.Builtin.part_of_default {builtin : Builtin} {name : String} {default : Value}
    (filled : builtin.default.get? name = some default) :
    (builtin = .time ∨ builtin = .duration) ∧ (name = "sec" ∨ name = "nsec") ∧
      default = .int 0 := by
  have stamp (filled : (Value.stamp 0 0).get? name = some default) :
      (name = "sec" ∨ name = "nsec") ∧ default = .int 0 := by
    change Dict.get? [("sec", Value.int 0), ("nsec", .int 0)] name = some default at filled
    rw [Dict.get?_cons, Dict.get?_cons] at filled
    split at filled
    · rename_i same
      exact ⟨Or.inl same.symm, (Option.some.inj filled).symm⟩
    · split at filled
      · rename_i same
        exact ⟨Or.inr same.symm, (Option.some.inj filled).symm⟩
      · cases filled
  cases builtin with
  | time => exact ⟨Or.inl rfl, stamp filled⟩
  | duration => exact ⟨Or.inr rfl, stamp filled⟩
  | _ => cases filled

theorem Message.Builtin.encode_missing {builtin : Builtin} {value default : Value}
    {entries : Dict String Value} {name : String}
    (table : Value.entries? (some value) = some entries) (absent : Dict.get? entries name = none)
    (filled : builtin.default.get? name = some default) (path : String) :
    encodeBuiltin builtin (some (.table (Dict.insert entries name default))) path =
      encodeBuiltin builtin (some value) path := by
  obtain ⟨rfl | rfl, isPart, rfl⟩ := Builtin.part_of_default filled
  · rw [encodeBuiltin, encodeBuiltin,
      stampAt_missing (zero_mem_unsignedRange .w32) table isPart absent]
  · rw [encodeBuiltin, encodeBuiltin,
      stampAt_missing (zero_mem_signedRange .w32) table isPart absent]

/-! ### Messages -/

theorem AllNamesDistinct.of_mem {fields : List Field} (distinct : AllNamesDistinct fields)
    {field : Field} (member : field ∈ fields) : field.NamesDistinct := by
  induction fields with
  | nil => cases member
  | cons first rest ih =>
      rcases List.mem_cons.mp member with rfl | later
      · exact distinct.1
      · exact ih distinct.2 later

/-- The default of a message has the default of each field. -/
theorem get?_defaultEntries {fields : List Field} (distinct : (fields.map Field.name).Nodup)
    {field : Field} (member : field ∈ fields) :
    Dict.get? (defaultEntries fields) field.name = some field.defaultEntry.2 := by
  rw [← normalEntries_nil, ← field.normalEntry_nil]
  exact get?_normalEntries distinct [] member

/-- A missing field of a message may be added. -/
theorem Schema.writes_missing {schema : Schema} (distinct : schema.NamesDistinct)
    {value default : Value} {entries : Dict String Value} {name : String}
    (table : Value.entries? (some value) = some entries) (absent : Dict.get? entries name = none)
    (filled : schema.default.get? name = some default) {path : String} {bytes : Bytes}
    (written : Writes (schema.encodeAt (some value) path) bytes) :
    Writes (schema.encodeAt (some (.table (Dict.insert entries name default))) path) bytes := by
  rcases schema with ⟨title, fields, constants⟩
  change Dict.get? (defaultEntries fields) name = some default at filled
  apply Schema.writes_congr table ?_ ?_ written
  · intro isKnown known
    apply unknownKey?_insert
    -- The default has entries for the fields alone.
    have key := (Dict.mem_keys_iff _ name).mpr (Option.isSome_iff_exists.mpr ⟨_, filled⟩)
    rw [← normalEntries_nil, keys_normalEntries] at key
    obtain ⟨field, member, rfl⟩ := List.mem_map.mp key
    exact known field member
  · intro field member bytes wrote
    by_cases same : name = field.name
    · subst same
      rw [get?_defaultEntries distinct.1 member] at filled
      apply Field.writes_default (distinct.2.of_mem member) absent ?_ wrote
      rw [Dict.get?_insert_self, ← filled]
    · rwa [field.encode_congr entries (by rw [Dict.get?_insert, if_neg same])]

/-- The value of a field may be exchanged for another that is written the same. -/
theorem Schema.writes_within {schema : Schema} (distinct : schema.NamesDistinct)
    {entries : Dict String Value} {field : Field} {fuller : Value} (member : field ∈ schema.fields)
    {path : String}
    (same : ∀ bytes, Writes (field.encode entries path) bytes →
      Writes (field.encode (Dict.insert entries field.name fuller) path) bytes)
    {bytes : Bytes} (written : Writes (schema.encodeAt (some (.table entries)) path) bytes) :
    Writes (schema.encodeAt (some (.table (Dict.insert entries field.name fuller))) path)
      bytes := by
  rcases schema with ⟨title, fields, constants⟩
  apply Schema.writes_congr rfl ?_ ?_ written
  · intro isKnown known
    exact unknownKey?_insert (known field member) entries fuller
  · intro other otherMember bytes wrote
    by_cases sameName : field.name = other.name
    · have itself : field = other :=
        List.inj_on_of_nodup_map distinct.1 member otherMember sameName
      rw [← itself] at wrote ⊢
      exact same bytes wrote
    · rwa [other.encode_congr entries (by rw [Dict.get?_insert, if_neg sameName])]

mutual

/-- An element in which a default is filled in is written the same. -/
theorem ElementType.Fills.writes : ∀ {type : ElementType} {value fuller : Value},
    type.Fills value fuller → type.NamesDistinct → ∀ (path : String) (bytes : Bytes),
      Writes (type.encode (some value) path) bytes → Writes (type.encode (some fuller) path) bytes
  | .builtin _, _, _, .missing table absent filled, _, path, _, written => by
      have encoded := writes_map_chunk_iff.mp written
      rw [← Builtin.encode_missing table absent filled path] at encoded
      exact writes_map_chunk_iff.mpr encoded
  | .message _, _, _, .missing table absent filled, distinct, _, _, written =>
      Schema.writes_missing distinct table absent filled written
  | .message ⟨_, _, _⟩, _, _, .within member present fills, distinct, path, bytes, written =>
      Schema.writes_within distinct member (fun bytes wrote =>
        fills.writes (distinct.2.of_mem member) present (Dict.get?_insert_self _ _ _) path bytes
          wrote) written
termination_by structural _ _ _ fills => fills

/-- A field in whose value a default is filled in is written the same. -/
theorem Field.Fills.writes : ∀ {field : Field} {value fuller : Value},
    field.Fills value fuller → field.NamesDistinct → ∀ {entries table : Dict String Value},
      Dict.get? entries field.name = some value → Dict.get? table field.name = some fuller →
        ∀ (path : String) (bytes : Bytes), Writes (field.encode entries path) bytes →
          Writes (field.encode table path) bytes
  | ⟨_, _, _⟩, _, _, .single fills, distinct, _, _, present, filled, path, bytes, written => by
      rw [Field.encode] at written ⊢
      rw [present] at written
      rw [filled]
      exact fills.writes distinct _ bytes written
  | ⟨_, type, _⟩, _, _, .item array fills, distinct, _, _, present, filled, path, _, written => by
      rw [Field.encode] at written ⊢
      rw [present] at written
      rw [filled]
      exact writes_array_exchange type array (fills.writes distinct _) written
  | ⟨_, type, _⟩, _, _, .lengthened short, distinct, _, _, present, filled, path, _, written => by
      rw [Field.encode, encodeShape] at written ⊢
      rw [present] at written
      rw [filled]
      refine writes_fixed_lengthened (fun bytes wrote => ?_) short written
      rw [← type.normal_none]
      exact (type.settles distinct _ _ none bytes wrote).2
termination_by structural _ _ _ fills => fills

end

end TopicBridge
