/-!
# Errors of message definitions
-/

namespace TopicBridge.Message

/-- Why a message definition is refused. -/
inductive DefinitionError where
  /-- A line is neither a field nor a constant. -/
  | unrecognizedLine (line : String)
  /-- A type specification or the name of a type is malformed. -/
  | badType (text : String)
  /-- A field name appears twice. -/
  | duplicateField (name : String)
  /-- A nested type is not registered. -/
  | unresolvedType (name : String)
  deriving DecidableEq

/-- The text of an error. -/
def DefinitionError.message : DefinitionError → String
  | unrecognizedLine line => "Unrecognized line: " ++ line
  | badType text => "Bad type: " ++ text
  | duplicateField name => "Duplicate field: " ++ name
  | unresolvedType name => "Unresolved type: " ++ name

end TopicBridge.Message
