import TopicBridge.Message.TypeSpec
import TopicBridge.Text.Blank
import TopicBridge.Text.Lines

/-!
# Message definitions

A message definition is a text with one declaration per line.  `TYPE NAME`
declares a field and `TYPE NAME = VALUE` a constant, which takes no room in a
message.  A number sign starts a comment, and blanks around a declaration and
empty lines carry no meaning.
-/

namespace TopicBridge.Message

open TopicBridge.Text

/-- A declared field. -/
structure FieldDecl where
  name : String
  type : TypeSpec
  deriving DecidableEq

/-- A declared constant, with its value as text. -/
structure ConstantDecl where
  name : String
  type : TypeSpec
  value : String
  deriving DecidableEq

/-- The fields and the constants of a message, each in order of declaration. -/
structure Definition where
  fields : List FieldDecl := []
  constants : List ConstantDecl := []
  deriving DecidableEq

namespace Definition

/-- What a line holds besides its comment and the blanks around it. -/
def content (line : List Char) : List Char :=
  trim (line.takeWhile (· ≠ '#'))

/-- The type and the name of a declaration: two words, of which the second is
an identifier. -/
def declared? (cs : List Char) : Option (List Char × List Char) :=
  match words cs with
  | [type, name] => if isIdentifier name then some (type, name) else none
  | _ => none

/-- Add the field that a line declares.  A repeated name is refused before the
type is read. -/
def addField (definition : Definition) (line : List Char) : Except DefinitionError Definition :=
  match declared? line with
  | none => .error (.unrecognizedLine (String.ofList line))
  | some (type, name) =>
      let name := String.ofList name
      if definition.fields.any fun field => field.name = name then .error (.duplicateField name)
      else (TypeSpec.parse type).map fun spec =>
        { definition with fields := definition.fields ++ [⟨name, spec⟩] }

/-- Add the constant that a line declares, `declaration` being the part before
the equals sign and `value` the part after it. -/
def addConstant (definition : Definition) (line declaration value : List Char) :
    Except DefinitionError Definition :=
  match declared? declaration with
  | none => .error (.unrecognizedLine (String.ofList line))
  | some (type, name) =>
      (TypeSpec.parse type).map fun spec =>
        { definition with constants := definition.constants ++
            [⟨String.ofList name, spec, String.ofList (trim value)⟩] }

/-- Add what a line declares, if it declares anything. -/
def addLine (definition : Definition) (line : List Char) : Except DefinitionError Definition :=
  let line := content line
  if line.isEmpty then .ok definition
  else match cutAt '=' line with
    | some (declaration, value) => definition.addConstant line declaration value
    | none => definition.addField line

/-- Read a definition.  The first line that is refused decides the error. -/
def parse (text : List Char) : Except DefinitionError Definition :=
  (lines text).foldlM addLine {}

end Definition

end TopicBridge.Message
