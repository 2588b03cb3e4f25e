import TopicBridge.Text.Utf8
import TopicBridge.Wire.Error
import TopicBridge.Wire.Size

/-!
# Reading messages

The reader takes fields off the front of a payload in order and has to use up
all of it.  An unsigned 64-bit word that no script integer can hold is read as
the nearest floating-point number.  The count of an array is checked before its
elements are read: the rest of the payload has to have room for that many, and
where elements take no bytes the count has a limit of its own.
-/

namespace TopicBridge

open Message Number Text

namespace Wire

/-- The first `count` bytes of the input, and the rest. -/
def take (count : Nat) (input : Bytes) : Except WireError (Bytes × Bytes) :=
  let bytes := input.take count
  if bytes.length < count then .error .unexpectedEnd else .ok (bytes, input.drop count)

/-- The input has at least a number of bytes.  No more of it than that is looked
at. -/
def hasRoom : (count : Nat) → Bytes → Bool
  | 0, _ => true
  | _ + 1, [] => false
  | count + 1, _ :: rest => hasRoom count rest

@[simp]
theorem hasRoom_eq (count : Nat) (input : Bytes) :
    hasRoom count input = decide (count ≤ input.length) := by
  induction count generalizing input with
  | zero => simp [hasRoom]
  | succ count ih =>
      cases input with
      | nil => simp [hasRoom]
      | cons byte rest => simp [hasRoom, ih]

/-- The unsigned word of some bytes that the input starts with, and the rest. -/
def takeWord (count : Nat) (input : Bytes) : Except WireError (Nat × Bytes) := do
  let (bytes, rest) ← take count input
  return (ofLittleEndian bytes, rest)

/-- The signed word of some bytes that the input starts with, and the rest. -/
def takeInt (count : Nat) (input : Bytes) : Except WireError (Int × Bytes) := do
  let (bytes, rest) ← take count input
  return (ofLittleEndianInt bytes, rest)

/-- The value of an unsigned word: an integer if a script integer can hold it,
else the nearest floating-point number. -/
def ofUnsigned (n : Nat) : Value :=
  if n < 2 ^ 63 then .int (Int64.ofInt n) else .float (Binary64.ofInt n)

/-- Read a builtin element. -/
def decodeBuiltin (builtin : Builtin) (input : Bytes) : Except WireError (Value × Bytes) :=
  match builtin with
  | .bool => do
      let (n, rest) ← takeWord 1 input
      return (.bool (n != 0), rest)
  | .int width => do
      let (i, rest) ← takeInt width.bytes input
      return (.int (Int64.ofInt i), rest)
  | .uint width => do
      let (n, rest) ← takeWord width.bytes input
      return (ofUnsigned n, rest)
  | .float32 => do
      let (n, rest) ← takeWord 4 input
      return (.float (Binary32.widen ⟨UInt32.ofNat n⟩), rest)
  | .float64 => do
      let (n, rest) ← takeWord 8 input
      return (.float ⟨UInt64.ofNat n⟩, rest)
  | .string => do
      let (count, rest) ← takeWord 4 input
      let (bytes, rest) ← take count rest
      match decodeUtf8? bytes with
      | none => .error .invalidText
      | some text => return (.string text, rest)
  | .time => do
      let (sec, rest) ← takeWord 4 input
      let (nsec, rest) ← takeWord 4 rest
      return (.stamp sec nsec, rest)
  | .duration => do
      let (sec, rest) ← takeInt 4 input
      let (nsec, rest) ← takeInt 4 rest
      return (.stamp sec nsec, rest)

/-- Read elements one after another, the ones read before standing in reverse
order. -/
def decodeItemsAfter (element : Bytes → Except WireError (Value × Bytes)) :
    (reversed : List Value) → (count : Nat) → Bytes → Except WireError (List Value × Bytes)
  | reversed, 0, input => .ok (reversed.reverse, input)
  | reversed, count + 1, input =>
      match element input with
      | .error e => .error e
      | .ok (item, rest) => decodeItemsAfter element (item :: reversed) count rest

/-- Read a number of elements one after another. -/
def decodeItems (element : Bytes → Except WireError (Value × Bytes)) (count : Nat)
    (input : Bytes) : Except WireError (Value × Bytes) := do
  let (items, rest) ← decodeItemsAfter element [] count input
  return (.array items, rest)

/-- Check the count of an array against the rest of the payload. -/
def checkCount (name : String) (leastSize count : Nat) (rest : Bytes) : Except WireError Unit :=
  if leastSize == 0 then
    if maxEmptyElements < count then .error (.arrayLength name maxEmptyElements count) else .ok ()
  else if hasRoom (saturate (count * leastSize)) rest then .ok ()
  else .error .unexpectedEnd

/-- Read a field of some shape, given how to read its elements. -/
def decodeShape (name : String) (type : ElementType)
    (element : Bytes → Except WireError (Value × Bytes)) (shape : Shape) (input : Bytes) :
    Except WireError (Value × Bytes) :=
  match shape with
  | .single => element input
  | .sequence => do
      let (count, rest) ← takeWord 4 input
      checkCount name type.leastSize count rest
      decodeItems element count rest
  | .fixed length => decodeItems element length input

end Wire

open Wire

mutual

/-- Read an element. -/
def ElementType.decode : ElementType → Bytes → Except WireError (Value × Bytes)
  | .builtin b, input => decodeBuiltin b input
  | .message schema, input => schema.decodeFrom input
termination_by structural type => type

/-- Read a message off the front of the input. -/
def Schema.decodeFrom : Schema → Bytes → Except WireError (Value × Bytes)
  | ⟨_, fields, _⟩, input => do
      let (entries, rest) ← decodeFields fields input
      return (.table entries, rest)
termination_by structural schema => schema

/-- Read fields one after another. -/
def decodeFields : List Field → Bytes → Except WireError (Dict String Value × Bytes)
  | [], input => .ok ([], input)
  | field :: later, input => do
      let (entry, rest) ← field.decode input
      let (entries, rest) ← decodeFields later rest
      return (entry :: entries, rest)
termination_by structural fields => fields

/-- Read a field as an entry of a table. -/
def Field.decode : Field → Bytes → Except WireError ((String × Value) × Bytes)
  | ⟨name, type, shape⟩, input => do
      let (value, rest) ← decodeShape name type (fun input => type.decode input) shape input
      return ((name, value), rest)
termination_by structural field => field

end

/-- Read a payload that is one message and nothing else. -/
def Schema.decode (schema : Schema) (payload : Bytes) : Except WireError Value := do
  let (value, rest) ← schema.decodeFrom payload
  if rest.isEmpty then return value else .error (.trailingBytes rest.length)

end TopicBridge
