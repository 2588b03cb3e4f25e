import TopicBridge.Message.Definition
import TopicBridge.Value

/-!
# Schemas

A schema is a message definition whose nested types have been looked up.  A
nested message carries its own schema, so a schema is a finite tree and needs
no catalog to be understood.
-/

namespace TopicBridge

open Message

mutual

/-- The element type of a field. -/
inductive ElementType where
  | builtin (builtin : Builtin)
  | message (schema : Schema)

/-- A field of a message. -/
structure Field where
  name : String
  type : ElementType
  shape : Shape

/-- A message type: its full name, its fields in wire order, and its
constants. -/
structure Schema where
  name : String
  fields : List Field
  constants : List ConstantDecl

end

/-- The name of an element type, as definitions spell it. -/
def ElementType.name : ElementType → String
  | .builtin b => b.name
  | .message schema => schema.name

/-- The elements are single bytes, so that a text may stand for an array of
them. -/
def ElementType.isByte : ElementType → Bool
  | .builtin (.int .w8) => true
  | .builtin (.uint .w8) => true
  | _ => false

/-- The field with a name. -/
def Schema.field? (schema : Schema) (name : String) : Option Field :=
  schema.fields.find? fun field => field.name = name

/-- A time stamp with the given seconds and nanoseconds. -/
def Value.stamp (sec nsec : Int) : Value :=
  .table [("sec", .int (Int64.ofInt sec)), ("nsec", .int (Int64.ofInt nsec))]

/-- The value of a field that a message leaves out. -/
def Message.Builtin.default : Builtin → Value
  | .bool => .bool false
  | .int _ => .int 0
  | .uint _ => .int 0
  | .float32 => .float .zero
  | .float64 => .float .zero
  | .string => .string ""
  | .time => .stamp 0 0
  | .duration => .stamp 0 0

mutual

/-- The default of an element. -/
def ElementType.default : ElementType → Value
  | .builtin b => b.default
  | .message schema => schema.default
termination_by structural type => type

/-- The table that holds the default of every field. -/
def Schema.default : Schema → Value
  | ⟨_, fields, _⟩ => .table (defaultEntries fields)
termination_by structural schema => schema

/-- The entries that hold the default of every field. -/
def defaultEntries : List Field → Dict String Value
  | [] => []
  | field :: rest => field.defaultEntry :: defaultEntries rest
termination_by structural fields => fields

/-- The entry that holds the default of a field.  An array of any length is
empty by default, whatever its elements are. -/
def Field.defaultEntry : Field → String × Value
  | ⟨name, type, .single⟩ => (name, type.default)
  | ⟨name, _, .sequence⟩ => (name, .array [])
  | ⟨name, type, .fixed length⟩ => (name, .array (List.replicate length type.default))
termination_by structural field => field

end

end TopicBridge
