import TopicBridge.Catalog.Standard
import TopicBridge.Proofs.Catalog.Obtainable

/-!
# Catalogs of registered types

In a catalog to which types were only added from definitions, every codec is the
codec of a schema that registration gave, and the full name that it is known
under is the name that it bears.  So whatever name a codec is looked up by, its
full name determines it, and it reads back what it writes.
-/

namespace TopicBridge

namespace Catalog

/-- A catalog that registrations of definitions have built. -/
inductive Registered : Catalog → Prop
  | empty : Registered {}
  | register {catalog known : Catalog} {fullName text : String} {schema : Schema} :
      Registered catalog → catalog.register fullName text = .ok (schema, known) →
        Registered known

variable {types : Catalog}

theorem Registered.built (registered : types.Registered) : types.Built := by
  induction registered with
  | empty => exact .empty
  | register _ accepted ih => exact ih.register accepted

/-- Definitions that are registered in order build a catalog, also when one of
them is refused. -/
theorem Registered.registerAll (registered : types.Registered)
    (definitions : List (String × String)) : (types.registerAll definitions).2.Registered := by
  induction definitions generalizing types with
  | nil => exact registered
  | cons definition rest ih =>
      rw [Catalog.registerAll]
      cases accepted : types.register definition.1 definition.2 with
      | error e => exact registered
      | ok made => exact ih (registered.register accepted)

/-- The catalog of definitions that are registered in order, until one of them is
refused. -/
def ofDefinitions (definitions : List (String × String)) : Catalog :=
  (registerAll {} definitions).2

theorem registered_ofDefinitions (definitions : List (String × String)) :
    (ofDefinitions definitions).Registered :=
  Registered.empty.registerAll definitions

/-- The standard types are registered from their definitions. -/
theorem registered_standard : standard.Registered :=
  registered_ofDefinitions standardTypes

/-- A codec that is known is the codec of a schema that registration gave, and
is known under the name of that schema. -/
theorem Registered.codec (registered : types.Registered) {name : String} {codec : Codec}
    (found : Dict.get? types.codecs name = some codec) :
    codec.typeName = name ∧ ∃ schema : Schema, schema.Obtainable ∧ codec = schema.codec := by
  induction registered with
  | empty => cases found
  | @register catalog known fullName text schema before accepted ih =>
      rcases bind_eq_ok_iff.mp accepted with ⟨⟨home, short⟩, _, built⟩
      rcases bind_eq_ok_iff.mp built with ⟨made, build, same⟩
      rcases bind_eq_ok_iff.mp build with ⟨definition, _, build⟩
      rcases bind_eq_ok_iff.mp build with ⟨fields, _, sameSchema⟩
      cases same
      change Dict.get? (Dict.insert catalog.codecs fullName schema.codec) name = some codec at found
      rw [Dict.get?_insert] at found
      split at found
      · rename_i sameName
        cases found
        cases sameSchema
        exact ⟨sameName, _, ⟨catalog, fullName, text, _, before.built, accepted⟩, rfl⟩
      · exact ih found

/-- The codec is the one that is known under its name. -/
def Knows (types : Catalog) (codec : Codec) : Prop :=
  Dict.get? types.codecs codec.typeName = some codec

/-- Two codecs of one name are one codec. -/
theorem Knows.unique {codec other : Codec} (knows : types.Knows codec) (knows' : types.Knows other)
    (same : codec.typeName = other.typeName) : codec = other := by
  unfold Knows at knows knows'
  rw [same, knows'] at knows
  exact (Option.some.inj knows).symm

/-- Whatever name a codec is looked up by, it is known under its own. -/
theorem Registered.knows_of_lookup (registered : types.Registered) {name : String} {codec : Codec}
    (found : types.lookup name = .ok codec) : types.Knows codec := by
  unfold lookup at found
  split at found
  · rename_i known resolved
    cases found
    obtain ⟨fullName, _, known⟩ := Option.bind_eq_some_iff.mp resolved
    obtain ⟨named, _⟩ := registered.codec known
    rwa [Knows, named]
  · cases found

/-- The payload can be read as a message of the type with a name. -/
def Reads (types : Catalog) (typeName : String) (payload : Bytes) : Prop :=
  ∃ codec value, types.Knows codec ∧ codec.typeName = typeName ∧ codec.decode payload = .ok value

/-- A codec reads every message of its type. -/
theorem Knows.decode {codec : Codec} (knows : types.Knows codec) {payload : Bytes}
    (reads : types.Reads codec.typeName payload) : ∃ value, codec.decode payload = .ok value := by
  obtain ⟨other, value, known, named, decoded⟩ := reads
  cases knows.unique known named.symm
  exact ⟨value, decoded⟩

/-- What a codec of a schema writes is a message of its type. -/
theorem Registered.reads_of_encode (registered : types.Registered) {codec : Codec}
    (knows : types.Knows codec) {value : Value} {payload : Bytes}
    (encoded : codec.encode value = .ok payload) : types.Reads codec.typeName payload := by
  obtain ⟨_, schema, obtainable, rfl⟩ := registered.codec knows
  exact ⟨schema.codec, schema.normal value, knows, rfl,
    (Schema.decode_encode obtainable encoded).1⟩

end Catalog

end TopicBridge
