import TopicBridge.Schema
import TopicBridge.Text.Utf8

/-!
# Normal forms of script values

Scripts may leave fields out, write integers as floating-point numbers, and give
a text in place of an array of bytes.  The normal form of a value is the table
that such a message reads back as: every field is there, in order of
declaration, and every number has the kind and the precision of its field.

What is missing is the default at every level.  A value that no message of the
type can hold is left as it is, since nothing writes it.
-/

namespace TopicBridge

open Message Text

/-- A truth value, which an integer stands for if it is not zero. -/
def truthNormal : Option Value → Value
  | none => .bool false
  | some (.bool b) => .bool b
  | some value =>
      match value.asInt? with
      | some i => .bool (i != 0)
      | none => value

/-- An integer, also if it is given as a floating-point number. -/
def integerNormal : Option Value → Value
  | none => .int 0
  | some value =>
      match value.asInt? with
      | some i => .int i
      | none => value

/-- A floating-point number in the precision of its field, also if it is given
as an integer. -/
def numberNormal (round : Binary64 → Binary64) : Option Value → Value
  | none => .float .zero
  | some value =>
      match value.asFloat? with
      | some x => .float (round x)
      | none => value

/-- A time stamp with both of its parts. -/
def stampNormal : Option Value → Value
  | none => .stamp 0 0
  | some value =>
      match Value.entries? (some value) with
      | some entries => .table
          [("sec", integerNormal (Dict.get? entries "sec")),
           ("nsec", integerNormal (Dict.get? entries "nsec"))]
      | none => value

/-- The normal form of a builtin element. -/
def Message.Builtin.normal : Builtin → Option Value → Value
  | .bool, value => truthNormal value
  | .int _, value => integerNormal value
  | .uint _, value => integerNormal value
  | .float32, value => numberNormal (fun x => x.narrow.widen) value
  | .float64, value => numberNormal id value
  | .string, value => value.getD (.string "")
  | .time, value => stampNormal value
  | .duration, value => stampNormal value

/-- The item that a byte of a text stands for. -/
def ElementType.byteItem : ElementType → UInt8 → Value
  | .builtin (.int .w8), byte => .int (Int64.ofInt byte.toInt8.toInt)
  | _, byte => .int (Int64.ofInt byte.toNat)

/-- The normal form of a field of some shape, given those of its elements. -/
def Message.Shape.normal (element : Option Value → Value) (byteItem : UInt8 → Value) :
    Shape → Option Value → Value
  | .single, value => element value
  | .sequence, none => .array []
  | .sequence, some (.array items) => .array (items.map fun item => element (some item))
  | .sequence, some (.string text) => .array ((encodeUtf8 text).map byteItem)
  | .sequence, some value => value
  | .fixed length, none => .array (List.replicate length (element none))
  | .fixed length, some (.array items) =>
      .array (items.map (fun item => element (some item)) ++
        List.replicate (length - items.length) (element none))
  | .fixed length, some (.string text) =>
      .array ((encodeUtf8 text).map byteItem ++
        List.replicate (length - text.utf8ByteSize) (element none))
  | .fixed _, some value => value

mutual

/-- The normal form of an element. -/
def ElementType.normal : ElementType → Option Value → Value
  | .builtin b, value => b.normal value
  | .message schema, value => schema.normalAt value
termination_by structural type => type

/-- The normal form of a message that may be missing. -/
def Schema.normalAt : Schema → Option Value → Value
  | ⟨_, fields, _⟩, value => .table (normalEntries fields ((Value.entries? value).getD []))
termination_by structural schema => schema

/-- The normal form of every field, as entries of a table. -/
def normalEntries : List Field → Dict String Value → Dict String Value
  | [], _ => []
  | field :: rest, entries => field.normalEntry entries :: normalEntries rest entries
termination_by structural fields => fields

/-- The normal form of a field, as an entry of a table. -/
def Field.normalEntry : Field → Dict String Value → String × Value
  | ⟨name, type, shape⟩, entries =>
      (name, shape.normal (fun value => type.normal value) type.byteItem (Dict.get? entries name))
termination_by structural field => field

end

/-- The normal form of a message. -/
def Schema.normal (schema : Schema) (value : Value) : Value :=
  schema.normalAt (some value)

mutual

/-- The fields of an element have different names, at every level. -/
def ElementType.NamesDistinct : ElementType → Prop
  | .builtin _ => True
  | .message schema => schema.NamesDistinct
termination_by structural type => type

/-- The fields of a message have different names, at every level. -/
def Schema.NamesDistinct : Schema → Prop
  | ⟨_, fields, _⟩ => (fields.map Field.name).Nodup ∧ AllNamesDistinct fields
termination_by structural schema => schema

/-- The fields inside of each field have different names. -/
def AllNamesDistinct : List Field → Prop
  | [] => True
  | field :: rest => field.NamesDistinct ∧ AllNamesDistinct rest
termination_by structural fields => fields

/-- The fields inside of a field have different names. -/
def Field.NamesDistinct : Field → Prop
  | ⟨_, type, _⟩ => type.NamesDistinct
termination_by structural field => field

end

/-! ## Tables -/

@[simp]
theorem Field.normalEntry_fst (field : Field) (entries : Dict String Value) :
    (field.normalEntry entries).1 = field.name := by
  cases field with
  | mk name type shape => rfl

/-- The table of normal forms holds that of each field, if the fields have
different names. -/
theorem get?_normalEntries {fields : List Field} (distinct : (fields.map Field.name).Nodup)
    (entries : Dict String Value) {field : Field} (member : field ∈ fields) :
    Dict.get? (normalEntries fields entries) field.name = some (field.normalEntry entries).2 := by
  induction fields with
  | nil => cases member
  | cons first rest ih =>
      rcases List.nodup_cons.mp distinct with ⟨fresh, distinct⟩
      have head := first.normalEntry_fst entries
      rw [normalEntries]
      generalize sameEntry : first.normalEntry entries = entry at head
      cases entry with
      | mk name value =>
          cases head
          rw [Dict.get?_cons]
          rcases List.mem_cons.mp member with rfl | later
          · rw [if_pos rfl, sameEntry]
          · have other : first.name ≠ field.name := by
              intro same
              apply fresh
              rw [same]
              exact List.mem_map_of_mem later
            rw [if_neg other]
            exact ih distinct later

/-- The table of normal forms has no other keys. -/
theorem keys_normalEntries (fields : List Field) (entries : Dict String Value) :
    Dict.keys (normalEntries fields entries) = fields.map Field.name := by
  induction fields with
  | nil => rfl
  | cons first rest ih =>
      rw [normalEntries, Dict.keys, List.map_cons, List.map_cons, first.normalEntry_fst]
      exact congrArg (first.name :: ·) ih

/-! ## What is missing -/

mutual

/-- A missing element is the default. -/
theorem ElementType.normal_none : ∀ type : ElementType, type.normal none = type.default
  | .builtin b => by cases b <;> rfl
  | .message schema => schema.normalAt_none
termination_by structural type => type

theorem Schema.normalAt_none : ∀ schema : Schema, schema.normalAt none = schema.default
  | ⟨_, fields, _⟩ => congrArg Value.table (normalEntries_nil fields)
termination_by structural schema => schema

theorem normalEntries_nil : ∀ fields : List Field, normalEntries fields [] = defaultEntries fields
  | [] => rfl
  | field :: rest => by
      rw [normalEntries, defaultEntries, field.normalEntry_nil, normalEntries_nil rest]
termination_by structural fields => fields

theorem Field.normalEntry_nil : ∀ field : Field, field.normalEntry [] = field.defaultEntry
  | ⟨name, type, .single⟩ => congrArg (Prod.mk name) type.normal_none
  | ⟨_, _, .sequence⟩ => rfl
  | ⟨name, type, .fixed length⟩ =>
      congrArg (fun value => (name, Value.array (List.replicate length value))) type.normal_none
termination_by structural field => field

end

/-- An empty array stands for the message with every default. -/
theorem Schema.normal_empty (schema : Schema) : schema.normal (.array []) = schema.default := by
  cases schema with
  | mk name fields constants => exact congrArg Value.table (normalEntries_nil fields)

end TopicBridge
