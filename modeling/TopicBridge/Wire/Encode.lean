import TopicBridge.Text.Utf8
import TopicBridge.Wire.Builder
import TopicBridge.Wire.Error
import TopicBridge.Wire.Size

/-!
# Writing messages

A message is the concatenation of its fields in order.  Numbers are
little-endian, a string is a length word and its UTF-8 bytes, a time stamp is
two words, an array of any length is a count word and its elements, an array of
fixed length is its elements alone, and a nested message is its fields in
place.

Writing starts from the default message: what a table leaves out keeps its
default, an array of fixed length that is too short is filled up, and a key
that the message does not define is refused.  An error names the field by its
path from the top.
-/

namespace TopicBridge

open Message Number Text

namespace Wire

/-- The path of a field below another path. -/
def joinPath (path name : String) : String :=
  if path.isEmpty then name else path ++ "." ++ name

/-- The integers from `low` up to but not including `high`. -/
structure Range where
  low : Int
  high : Int

/-- The integers that a signed word of a width can hold. -/
def signedRange (width : Width) : Range :=
  ⟨-2 ^ (8 * width.bytes - 1), 2 ^ (8 * width.bytes - 1)⟩

/-- The integers that an unsigned word of a width can hold. -/
def unsignedRange (width : Width) : Range :=
  ⟨0, 2 ^ (8 * width.bytes)⟩

/-- The integer of a field, which has to lie in a range. -/
def integerAt (range : Range) (value : Option Value) (path : String) : Except WireError Int :=
  match value with
  | none => .ok 0
  | some v =>
      match v.asInt? with
      | none => .error (.typeMismatch path .integer)
      | some i =>
          if range.low ≤ i.toInt ∧ i.toInt < range.high then .ok i.toInt
          else .error (.outOfRange path)

/-- The floating-point number of a field. -/
def numberAt (value : Option Value) (path : String) : Except WireError Binary64 :=
  match value with
  | none => .ok .zero
  | some v =>
      match v.asFloat? with
      | none => .error (.typeMismatch path .number)
      | some x => .ok x

/-- The truth value of a field.  An integer is true unless it is zero. -/
def truthAt (value : Option Value) (path : String) : Except WireError Bool :=
  match value with
  | none => .ok false
  | some (.bool b) => .ok b
  | some v =>
      match v.asInt? with
      | none => .error (.typeMismatch path .boolean)
      | some i => .ok (i != 0)

/-- The text of a field. -/
def textAt (value : Option Value) (path : String) : Except WireError String :=
  match value with
  | none => .ok ""
  | some (.string s) => .ok s
  | some _ => .error (.typeMismatch path .string)

/-- The first key that is not among those defined. -/
def unknownKey? (isKnown : String → Bool) (entries : Dict String Value) : Option String :=
  (Dict.keys entries).find? fun key => !isKnown key

/-- The seconds and nanoseconds of a time stamp, both of which have to lie in a
range. -/
def stampAt (range : Range) (value : Option Value) (path : String) :
    Except WireError (Int × Int) :=
  match Value.entries? value with
  | none => .error (.typeMismatch path .table)
  | some entries =>
      match unknownKey? (fun key => key == "sec" || key == "nsec") entries with
      | some key => .error (.unexpectedField (joinPath path key))
      | none => do
          let sec ← integerAt range (Dict.get? entries "sec") (joinPath path "sec")
          let nsec ← integerAt range (Dict.get? entries "nsec") (joinPath path "nsec")
          return (sec, nsec)

/-- The word that counts bytes or elements. -/
def countWord (count : Nat) (path : String) : Except WireError Bytes :=
  if count < 2 ^ 32 then .ok (littleEndian 4 count) else .error (.outOfRange path)

/-- Write a builtin element. -/
def encodeBuiltin (builtin : Builtin) (value : Option Value) (path : String) :
    Except WireError Bytes :=
  match builtin with
  | .bool => do
      let b ← truthAt value path
      return [if b then 1 else 0]
  | .int width => do
      let i ← integerAt (signedRange width) value path
      return littleEndianInt width.bytes i
  | .uint width => do
      let i ← integerAt (unsignedRange width) value path
      return littleEndianInt width.bytes i
  | .float32 => do
      let x ← numberAt value path
      return littleEndian 4 x.narrow.bits.toNat
  | .float64 => do
      let x ← numberAt value path
      return littleEndian 8 x.bits.toNat
  | .string => do
      let text ← textAt value path
      let count ← countWord text.utf8ByteSize path
      return count ++ encodeUtf8 text
  | .time => do
      let (sec, nsec) ← stampAt (unsignedRange .w32) value path
      return littleEndianInt 4 sec ++ littleEndianInt 4 nsec
  | .duration => do
      let (sec, nsec) ← stampAt (signedRange .w32) value path
      return littleEndianInt 4 sec ++ littleEndianInt 4 nsec

/-- Write elements one after another. -/
def encodeItems {α : Type} (element : α → Except WireError Builder) (items : List α) :
    Except WireError Builder := do
  let parts ← items.mapM element
  return .concat parts

/-- Write an array of any length. -/
def encodeSequence (type : ElementType) (element : Option Value → Except WireError Builder)
    (value : Option Value) (path : String) : Except WireError Builder :=
  match value with
  | none => do
      let count ← countWord 0 path
      return .chunk count
  | some (.array items) =>
      if maxEmptyElements < items.length && type.leastSize == 0 then
        .error (.arrayLength path maxEmptyElements items.length)
      else do
        let count ← countWord items.length path
        let elements ← encodeItems (fun item => element (some item)) items
        return .append (.chunk count) elements
  | some (.string text) =>
      if type.isByte then do
        let count ← countWord text.utf8ByteSize path
        return .chunk (count ++ encodeUtf8 text)
      else .error (.typeMismatch path .array)
  | some _ => .error (.typeMismatch path .array)

/-- Write an array of fixed length. -/
def encodeFixed (type : ElementType) (element : Option Value → Except WireError Builder)
    (length : Nat) (value : Option Value) (path : String) : Except WireError Builder :=
  match value with
  | none => encodeItems element (List.replicate length none)
  | some (.array items) =>
      if length < items.length then .error (.arrayLength path length items.length)
      else do
        let elements ← encodeItems (fun item => element (some item)) items
        let padding ← encodeItems element (List.replicate (length - items.length) none)
        return .append elements padding
  | some (.string text) =>
      if type.isByte then
        let size := text.utf8ByteSize
        if length < size then .error (.arrayLength path length size)
        else do
          let padding ← encodeItems element (List.replicate (length - size) none)
          return .append (.chunk (encodeUtf8 text)) padding
      else .error (.typeMismatch path .array)
  | some _ => .error (.typeMismatch path .array)

/-- Write a field of some shape, given how to write its elements. -/
def encodeShape (type : ElementType) (element : Option Value → Except WireError Builder)
    (shape : Shape) (value : Option Value) (path : String) : Except WireError Builder :=
  match shape with
  | .single => element value
  | .sequence => encodeSequence type element value path
  | .fixed length => encodeFixed type element length value path

end Wire

open Wire

mutual

/-- Write an element. -/
def ElementType.encode : ElementType → Option Value → String → Except WireError Builder
  | .builtin b, value, path => (encodeBuiltin b value path).map .chunk
  | .message schema, value, path => schema.encodeAt value path
termination_by structural type => type

/-- Write a message that stands at a path. -/
def Schema.encodeAt : Schema → Option Value → String → Except WireError Builder
  | ⟨name, fields, _⟩, value, path =>
      match Value.entries? value with
      | none => .error (.typeMismatch (if path.isEmpty then name else path) .table)
      | some entries =>
          match unknownKey? (fun key => fields.any fun field => field.name == key) entries with
          | some key => .error (.unexpectedField (joinPath path key))
          | none => encodeFields fields entries path
termination_by structural schema => schema

/-- Write fields one after another. -/
def encodeFields : List Field → Dict String Value → String → Except WireError Builder
  | [], _, _ => .ok .empty
  | field :: rest, entries, path => do
      let first ← field.encode entries path
      let later ← encodeFields rest entries path
      return .append first later
termination_by structural fields => fields

/-- Write the field that has its value among the entries of a table. -/
def Field.encode : Field → Dict String Value → String → Except WireError Builder
  | ⟨name, type, shape⟩, entries, path =>
      encodeShape type (fun value => type.encode value (joinPath path name)) shape
        (Dict.get? entries name) (joinPath path name)
termination_by structural field => field

end

/-- Write a message. -/
def Schema.encode (schema : Schema) (value : Value) : Except WireError Bytes :=
  (schema.encodeAt (some value) "").map Builder.toBytes

end TopicBridge
