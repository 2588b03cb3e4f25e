import TopicBridge.Message.Builtin
import TopicBridge.Message.Error
import TopicBridge.Text.Token

/-!
# Type specifications

A type specification is a base, `Name` or `package/Name`, and the shape of the
field: nothing for a single element, `[]` for an array of any length, or `[N]`
for an array of `N` elements.  A base without a package that is the name of a
builtin type stands for that type.
-/

namespace TopicBridge.Message

open TopicBridge.Text

/-- How many elements a field holds. -/
inductive Shape where
  | single
  | sequence
  | fixed (length : Nat)
  deriving DecidableEq

/-- The element type of a field, before nested types are looked up. -/
inductive BaseType where
  | builtin (builtin : Builtin)
  | named (package : Option String) (name : String)
  deriving DecidableEq

/-- A type specification. -/
structure TypeSpec where
  base : BaseType
  shape : Shape
  deriving DecidableEq

/-- The text of a shape. -/
def Shape.text : Shape → String
  | single => ""
  | sequence => "[]"
  | fixed length => "[" ++ toString length ++ "]"

/-- The text of a base. -/
def BaseType.text : BaseType → String
  | builtin b => b.name
  | named none name => name
  | named (some package) name => package ++ "/" ++ name

/-- The package and the short name of a full type name. -/
def qualified? (cs : List Char) : Option (String × String) :=
  (cutAt '/' cs).bind fun parts =>
    if isIdentifier parts.1 && isIdentifier parts.2 then
      some (String.ofList parts.1, String.ofList parts.2)
    else none

namespace TypeSpec

/-- The canonical text of a type specification. -/
def text (spec : TypeSpec) : String :=
  spec.base.text ++ spec.shape.text

/-- The length of a fixed array: a decimal number below `2 ^ 64`. -/
def readLength? (cs : List Char) : Option Nat :=
  (readDecimal? cs).filter fun length => length < 2 ^ 64

/-- Split a type specification into the text of its base and its shape.  The
shape is what stands after the last opening bracket, if the text ends with a
closing one. -/
def readShape? (cs : List Char) : Option (List Char × Shape) :=
  if cs.getLast? = some ']' then
    (cutAtLast '[' cs.dropLast).bind fun parts =>
      if parts.2.isEmpty then some (parts.1, .sequence)
      else (readLength? parts.2).map fun length => (parts.1, .fixed length)
  else some (cs, .single)

/-- Read a base that names a type to be looked up. -/
def readNamed? (cs : List Char) : Option BaseType :=
  if isIdentifier cs then some (.named none (String.ofList cs))
  else (qualified? cs).map fun parts => .named (some parts.1) parts.2

/-- Read a base. -/
def readBase? (cs : List Char) : Option BaseType :=
  match Builtin.ofName? (String.ofList cs) with
  | some b => some (.builtin b)
  | none => readNamed? cs

/-- Read a type specification. -/
def read? (cs : List Char) : Option TypeSpec :=
  (readShape? cs).bind fun parts =>
    (readBase? parts.1).map fun base => ⟨base, parts.2⟩

/-- Read a type specification, quoting the whole of a malformed one. -/
def parse (cs : List Char) : Except DefinitionError TypeSpec :=
  match read? cs with
  | some spec => .ok spec
  | none => .error (.badType (String.ofList cs))

end TypeSpec

end TopicBridge.Message
