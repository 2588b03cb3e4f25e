import TopicBridge.Value

/-!
# Errors of the wire format
-/

namespace TopicBridge

/-- Why a value cannot be written as a message, or a payload cannot be read. -/
inductive WireError where
  /-- The payload ends before the message is complete. -/
  | unexpectedEnd
  /-- Bytes are left over after the message. -/
  | trailingBytes (count : Nat)
  /-- The bytes of a string are not UTF-8. -/
  | invalidText
  /-- The value of a field has the wrong kind. -/
  | typeMismatch (field : String) (expected : Value.Kind)
  /-- A table has a key that the message does not define. -/
  | unexpectedField (key : String)
  /-- A number does not fit its field. -/
  | outOfRange (field : String)
  /-- An array has too many elements. -/
  | arrayLength (field : String) (limit actual : Nat)
  deriving DecidableEq

/-- The text of an error. -/
def WireError.message : WireError → String
  | unexpectedEnd => "Unexpected end of message"
  | trailingBytes count => toString count ++ " trailing bytes after message"
  | invalidText => "Invalid UTF-8 in string field"
  | typeMismatch field expected => "Value for '" ++ field ++ "' is not " ++ expected.name
  | unexpectedField key => "Unexpected key: " ++ key
  | outOfRange field => "Value for '" ++ field ++ "' is out of range"
  | arrayLength field limit actual =>
      "Array '" ++ field ++ "' holds " ++ toString actual ++ " elements, at most " ++
        toString limit ++ " allowed"

end TopicBridge
