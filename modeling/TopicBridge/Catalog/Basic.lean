import TopicBridge.Error
import TopicBridge.Wire.Decode
import TopicBridge.Wire.Encode

/-!
# Catalogs of message types

A catalog maps full type names, `package/Name`, to codecs.  A short name stands
for the first full name that was registered with it.  A type registered from a
definition also has a schema, and only such types can be nested in others; a
nested type without a package is looked for in the package of the new type
first, then as a short name.
-/

namespace TopicBridge

open Message

/-- How the messages of one type are written and read. -/
structure Codec where
  typeName : String
  encode : Value → Except WireError Bytes
  decode : Bytes → Except WireError Value

/-- The codec of a schema. -/
def Schema.codec (schema : Schema) : Codec :=
  ⟨schema.name, schema.encode, schema.decode⟩

/-- A codec that carries a text as its bytes, and reads any payload as the
number of its bytes. -/
def Codec.raw (typeName : String) : Codec where
  typeName
  encode
    | .string text => .ok (Text.encodeUtf8 text)
    | _ => .error (.typeMismatch "" .string)
  decode payload := .ok (.int (Int64.ofNat payload.length))

/-- The registered types: codecs and schemas under full names, and the full
names that short names stand for. -/
structure Catalog where
  codecs : Dict String Codec := []
  schemas : Dict String Schema := []
  aliases : Dict String String := []

namespace Catalog

/-- The package and the short name of a type to be registered. -/
def splitName (fullName : String) : Except DefinitionError (String × String) :=
  match qualified? fullName.toList with
  | some parts => .ok parts
  | none => .error (.badType fullName)

/-- The full name that a nested type of a message in some package refers to. -/
def nestedName (catalog : Catalog) (home : String) : Option String → String → String
  | some package, name => package ++ "/" ++ name
  | none, name =>
      let atHome := home ++ "/" ++ name
      if Dict.contains catalog.schemas atHome then atHome
      else (Dict.get? catalog.aliases name).getD atHome

/-- The element type that a base refers to in a message of some package. -/
def resolveBase (catalog : Catalog) (home : String) : BaseType →
    Except DefinitionError ElementType
  | .builtin b => .ok (.builtin b)
  | .named package name =>
      let fullName := catalog.nestedName home package name
      match Dict.get? catalog.schemas fullName with
      | some schema => .ok (.message schema)
      | none => .error (.unresolvedType fullName)

/-- A declared field with its type looked up. -/
def resolveField (catalog : Catalog) (home : String) (decl : FieldDecl) :
    Except DefinitionError Field :=
  (catalog.resolveBase home decl.type.base).map fun type =>
    ⟨decl.name, type, decl.type.shape⟩

/-- Make a codec known under a full name, and under its short name unless that
one is taken. -/
def insertCodec (catalog : Catalog) (fullName short : String) (codec : Codec) : Catalog :=
  { catalog with
    codecs := Dict.insert catalog.codecs fullName codec
    aliases := Dict.insertNew catalog.aliases short fullName }

/-- The schema that a definition has under a full name. -/
def buildSchema (catalog : Catalog) (home fullName text : String) :
    Except DefinitionError Schema := do
  let definition ← Definition.parse text.toList
  let fields ← definition.fields.mapM (catalog.resolveField home)
  return ⟨fullName, fields, definition.constants⟩

/-- Register a type from the text of its definition. -/
def register (catalog : Catalog) (fullName text : String) :
    Except DefinitionError (Schema × Catalog) := do
  let (home, short) ← splitName fullName
  let schema ← catalog.buildSchema home fullName text
  let known := { catalog with schemas := Dict.insert catalog.schemas fullName schema }
  return (schema, known.insertCodec fullName short schema.codec)

/-- Register types in order until one is refused.  The types before it stay. -/
def registerAll (catalog : Catalog) :
    List (String × String) → Except BridgeError Nat × Catalog
  | [] => (.ok 0, catalog)
  | (fullName, text) :: rest =>
      match catalog.register fullName text with
      | .error e => (.error (.definition e), catalog)
      | .ok (_, known) =>
          let outcome := known.registerAll rest
          (outcome.1.map (· + 1), outcome.2)

/-- Register a codec that has no definition. -/
def registerCodec (catalog : Catalog) (fullName : String) (codec : Codec) :
    Except DefinitionError Catalog :=
  (splitName fullName).map fun parts => catalog.insertCodec fullName parts.2 codec

/-- The full name that a full or short name stands for. -/
def resolve? (catalog : Catalog) (name : String) : Option String :=
  if Dict.contains catalog.codecs name then some name else Dict.get? catalog.aliases name

/-- The name stands for a registered type. -/
def contains (catalog : Catalog) (name : String) : Bool :=
  (catalog.resolve? name).isSome

/-- The codec of a type. -/
def lookup (catalog : Catalog) (name : String) : Except BridgeError Codec :=
  match (catalog.resolve? name).bind (Dict.get? catalog.codecs) with
  | some codec => .ok codec
  | none => .error (.unknownType name)

/-- The schema of a type. -/
def schema? (catalog : Catalog) (name : String) : Option Schema :=
  (catalog.resolve? name).bind (Dict.get? catalog.schemas)

/-- The full names of the registered types, in ascending order. -/
def typeNames (catalog : Catalog) : List String :=
  (Dict.keys catalog.codecs).mergeSort fun a b => decide (a ≤ b)

end Catalog

end TopicBridge
