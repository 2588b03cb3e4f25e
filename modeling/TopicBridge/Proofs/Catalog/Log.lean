import Mathlib.Data.List.Induction
import TopicBridge.Proofs.Catalog.Obtainable

/-!
# The log of a catalog

Types are registered from definitions, one by one or several at a time, and with
codecs of their own, and any of these requests may be refused.  The log of a
catalog lists what was accepted, oldest first, and determines the catalog: the
codec of a full name is the one registered last, its schema is that of the last
definition, and an alias stands for the full name that was the first to bring
it.
-/

namespace TopicBridge

open Message Text

/-- Where the codec of a registered type comes from. -/
inductive Origin where
  | definition (schema : Schema)
  | custom (codec : Codec)

/-- The codec that is registered. -/
def Origin.codec : Origin → Codec
  | definition schema => schema.codec
  | custom codec => codec

/-- The schema that is registered, if there is one. -/
def Origin.schema? : Origin → Option Schema
  | definition schema => some schema
  | custom _ => none

/-- A registration that was accepted. -/
structure Registration where
  fullName : String
  origin : Origin
  /-- The full name has a package and a short name. -/
  qualified : ∃ parts, Catalog.splitName fullName = .ok parts
  /-- A schema bears the name that it is registered under. -/
  named : ∀ schema, origin = .definition schema → schema.name = fullName

/-- The short name of a full name. -/
def Catalog.shortName (fullName : String) : String :=
  ((Catalog.splitName fullName).toOption.map Prod.snd).getD ""

/-- The short name that a registration brings. -/
def Registration.short (registration : Registration) : String :=
  Catalog.shortName registration.fullName

/-- What may be asked of a catalog. -/
inductive Request where
  | register (fullName text : String)
  | registerAll (definitions : List (String × String))
  | registerCodec (fullName : String) (codec : Codec)

/-! ## Full names and short names -/

/-- An identifier has no character that identifiers do not have. -/
theorem Text.not_mem_of_isIdentifier {c : Char} {cs : List Char}
    (foreign : isIdentifierRest c = false) (identifier : isIdentifier cs = true) : c ∉ cs := by
  have starts {d : Char} (start : isIdentifierStart d = true) : isIdentifierRest d = true := by
    rw [isIdentifierStart, Bool.or_eq_true] at start
    rw [isIdentifierRest, Bool.or_eq_true, Char.isAlphanum, Bool.or_eq_true]
    exact start.imp_left Or.inl
  cases cs with
  | nil => exact List.not_mem_nil
  | cons head rest =>
      rw [isIdentifier, Bool.and_eq_true, List.all_eq_true] at identifier
      intro member
      rcases List.mem_cons.mp member with rfl | later
      · rw [starts identifier.1] at foreign
        cases foreign
      · rw [identifier.2 c later] at foreign
        cases foreign

namespace Catalog

/-- A full name has a slash, and its short name has none. -/
theorem slash_of_splitName {fullName : String} {parts : String × String}
    (split : splitName fullName = .ok parts) :
    '/' ∈ fullName.toList ∧ '/' ∉ parts.2.toList := by
  unfold splitName at split
  cases qualified : qualified? fullName.toList with
  | none =>
      rw [qualified] at split
      cases split
  | some found =>
      rw [qualified] at split
      cases split
      rcases Option.bind_eq_some_iff.mp qualified with ⟨⟨before, after⟩, cut, checked⟩
      dsimp only at checked
      split at checked
      · rename_i identifiers
        cases checked
        rw [Bool.and_eq_true] at identifiers
        constructor
        · rw [(eq_append_of_cutAt cut).1]
          exact List.mem_append_right _ List.mem_cons_self
        · rw [String.toList_ofList]
          exact not_mem_of_isIdentifier (by decide) identifiers.2
      · cases checked

/-- What a full name brings is its short name. -/
theorem shortName_of_splitName {fullName : String} {parts : String × String}
    (split : splitName fullName = .ok parts) : shortName fullName = parts.2 := by
  rw [shortName, split]
  rfl

end Catalog

/-- No short name is a full name. -/
theorem Registration.short_ne_fullName (registration other : Registration) :
    registration.short ≠ other.fullName := by
  rcases registration.qualified with ⟨parts, split⟩
  rcases other.qualified with ⟨otherParts, otherSplit⟩
  intro same
  apply (Catalog.slash_of_splitName split).2
  rw [← Catalog.shortName_of_splitName split]
  change '/' ∈ registration.short.toList
  rw [same]
  exact (Catalog.slash_of_splitName otherSplit).1

/-! ## What requests do -/

namespace Catalog

/-- The catalog after a registration. -/
def enter (catalog : Catalog) (registration : Registration) : Catalog :=
  let known :=
    match registration.origin with
    | .definition schema =>
        { catalog with schemas := Dict.insert catalog.schemas registration.fullName schema }
    | .custom _ => catalog
  known.insertCodec registration.fullName registration.short registration.origin.codec

/-- The catalog after a request, accepted or not. -/
def after (catalog : Catalog) : Request → Catalog
  | .register fullName text =>
      match catalog.register fullName text with
      | .ok (_, known) => known
      | .error _ => catalog
  | .registerAll definitions => (catalog.registerAll definitions).2
  | .registerCodec fullName codec =>
      match catalog.registerCodec fullName codec with
      | .ok known => known
      | .error _ => catalog

/-- What it takes for a definition to be registered, and what comes of it. -/
theorem register_eq_ok {catalog known : Catalog} {fullName text : String} {schema : Schema}
    (accepted : catalog.register fullName text = .ok (schema, known)) :
    (∃ parts, splitName fullName = .ok parts) ∧ schema.name = fullName ∧
      known = { catalog with schemas := Dict.insert catalog.schemas fullName schema }.insertCodec
        fullName (shortName fullName) schema.codec := by
  rcases bind_eq_ok_iff.mp accepted with ⟨parts, split, accepted⟩
  rcases bind_eq_ok_iff.mp accepted with ⟨built, build, same⟩
  rcases bind_eq_ok_iff.mp build with ⟨definition, _, build⟩
  rcases bind_eq_ok_iff.mp build with ⟨fields, _, sameSchema⟩
  cases same
  cases sameSchema
  rw [shortName_of_splitName split]
  exact ⟨⟨parts, split⟩, rfl, rfl⟩

/-- The registration of a definition, if it is accepted. -/
def defined? (catalog : Catalog) (fullName text : String) : Option Registration :=
  match accepted : catalog.register fullName text with
  | .error _ => none
  | .ok (schema, _) =>
      some {
        fullName
        origin := .definition schema
        qualified := (register_eq_ok accepted).1
        named := fun _ same => Origin.definition.inj same ▸ (register_eq_ok accepted).2.1 }

/-- The registration of a codec, if it is accepted. -/
def supplied? (fullName : String) (codec : Codec) : Option Registration :=
  match split : splitName fullName with
  | .error _ => none
  | .ok parts =>
      some {
        fullName
        origin := .custom codec
        qualified := ⟨parts, split⟩
        named := fun _ same => nomatch same }

/-- The registrations of definitions, up to the first that is refused. -/
def definedAll (catalog : Catalog) : List (String × String) → List Registration
  | [] => []
  | (fullName, text) :: rest =>
      match catalog.defined? fullName text with
      | none => []
      | some registration => registration :: (catalog.enter registration).definedAll rest

/-- The registrations that a request makes, in order. -/
def accepted (catalog : Catalog) : Request → List Registration
  | .register fullName text => (catalog.defined? fullName text).toList
  | .registerAll definitions => catalog.definedAll definitions
  | .registerCodec fullName codec => (supplied? fullName codec).toList

/-- The catalog after requests, accepted or not. -/
def afterAll (catalog : Catalog) (requests : List Request) : Catalog :=
  requests.foldl after catalog

/-- The registrations that requests make, oldest first. -/
def log (catalog : Catalog) : List Request → List Registration
  | [] => []
  | request :: rest => catalog.accepted request ++ (catalog.after request).log rest

/-- The catalog of registrations. -/
def ofLog (log : List Registration) : Catalog :=
  log.foldl enter {}

variable {catalog : Catalog}

/-- A definition that is refused leaves the catalog alone, and one that is
accepted is entered. -/
theorem register_cases (catalog : Catalog) (fullName text : String) :
    (∃ e, catalog.register fullName text = .error e ∧ catalog.defined? fullName text = none) ∨
    ∃ registration schema, catalog.defined? fullName text = some registration ∧
      catalog.register fullName text = .ok (schema, catalog.enter registration) := by
  unfold defined?
  split
  · rename_i e refused
    exact Or.inl ⟨e, refused, rfl⟩
  · rename_i schema known accepted
    apply Or.inr
    rcases register_eq_ok accepted with ⟨_, _, rfl⟩
    exact ⟨_, schema, rfl, accepted⟩

theorem after_register (catalog : Catalog) (fullName text : String) :
    catalog.after (.register fullName text) =
      (catalog.defined? fullName text).toList.foldl enter catalog := by
  rcases catalog.register_cases fullName text with
    ⟨e, refused, none⟩ | ⟨registration, schema, entered, accepted⟩
  · rw [none, after, refused]
    rfl
  · rw [entered, after, accepted]
    rfl

theorem registerAll_snd (catalog : Catalog) (definitions : List (String × String)) :
    (catalog.registerAll definitions).2 = (catalog.definedAll definitions).foldl enter catalog := by
  induction definitions generalizing catalog with
  | nil => rfl
  | cons definition rest ih =>
      rcases catalog.register_cases definition.1 definition.2 with
        ⟨e, refused, none⟩ | ⟨registration, schema, entered, accepted⟩
      · rw [registerAll, refused, definedAll, none]
        rfl
      · rw [registerAll, accepted, definedAll, entered]
        exact ih (catalog.enter registration)

theorem after_registerCodec (catalog : Catalog) (fullName : String) (codec : Codec) :
    catalog.after (.registerCodec fullName codec) =
      (supplied? fullName codec).toList.foldl enter catalog := by
  unfold after registerCodec supplied?
  dsimp only
  split
  · rename_i known accepted
    rcases map_eq_ok_iff.mp accepted with ⟨parts, split, rfl⟩
    split
    · rename_i e refused
      rw [split] at refused
      cases refused
    · rename_i same
      rw [← shortName_of_splitName split]
      rfl
  · rename_i e refused
    split
    · rfl
    · rename_i parts split
      rw [split] at refused
      cases refused

/-- A request enters what it makes accepted. -/
theorem after_eq (catalog : Catalog) (request : Request) :
    catalog.after request = (catalog.accepted request).foldl enter catalog := by
  cases request with
  | register fullName text => exact catalog.after_register fullName text
  | registerAll definitions => exact catalog.registerAll_snd definitions
  | registerCodec fullName codec => exact catalog.after_registerCodec fullName codec

/-- Requests enter what they make accepted. -/
theorem afterAll_eq (catalog : Catalog) (requests : List Request) :
    catalog.afterAll requests = (catalog.log requests).foldl enter catalog := by
  induction requests generalizing catalog with
  | nil => rfl
  | cons request rest ih =>
      rw [log, List.foldl_append, ← after_eq, ← ih]
      rfl

/-- The log of a new catalog determines it. -/
theorem ofLog_log (requests : List Request) :
    ofLog (log {} requests) = afterAll {} requests :=
  (afterAll_eq {} requests).symm

/-! ## What the log tells -/

variable {registrations : List Registration}

theorem ofLog_snoc (registrations : List Registration) (last : Registration) :
    ofLog (registrations ++ [last]) = (ofLog registrations).enter last := by
  rw [ofLog, List.foldl_append]
  rfl

/-- The last registration under a full name. -/
def latest? (registrations : List Registration) (fullName : String) : Option Registration :=
  registrations.reverse.find? fun registration => registration.fullName = fullName

theorem latest?_snoc (registrations : List Registration) (last : Registration) (name : String) :
    latest? (registrations ++ [last]) name =
      if last.fullName = name then some last else latest? registrations name := by
  rw [latest?, List.reverse_append, List.reverse_singleton, List.singleton_append,
    List.find?_cons]
  by_cases same : last.fullName = name
  · simp [same]
  · simp [same, latest?]

/-- The schema of the last definition under a full name. -/
def latestSchema? (registrations : List Registration) (fullName : String) : Option Schema :=
  registrations.reverse.findSome? fun registration =>
    if registration.fullName = fullName then registration.origin.schema? else none

theorem latestSchema?_snoc (registrations : List Registration) (last : Registration)
    (name : String) :
    latestSchema? (registrations ++ [last]) name =
      (if last.fullName = name then last.origin.schema? else none).or
        (latestSchema? registrations name) := by
  rw [latestSchema?, List.reverse_append, List.reverse_singleton, List.singleton_append,
    List.findSome?_cons]
  split <;> simp_all [latestSchema?]

/-- The codec of a full name is the one registered last. -/
theorem get?_codecs_ofLog (registrations : List Registration) (name : String) :
    Dict.get? (ofLog registrations).codecs name =
      (latest? registrations name).map fun registration => registration.origin.codec := by
  induction registrations using List.reverseRecOn with
  | nil => rfl
  | append_singleton earlier last ih =>
      have entered : ((ofLog earlier).enter last).codecs =
          Dict.insert (ofLog earlier).codecs last.fullName last.origin.codec := by
        unfold enter
        cases last.origin <;> rfl
      rw [ofLog_snoc, entered, Dict.get?_insert, latest?_snoc, ih]
      split <;> rfl

/-- The schema of a full name is that of the last definition. -/
theorem get?_schemas_ofLog (registrations : List Registration) (name : String) :
    Dict.get? (ofLog registrations).schemas name = latestSchema? registrations name := by
  induction registrations using List.reverseRecOn with
  | nil => rfl
  | append_singleton earlier last ih =>
      rw [ofLog_snoc, latestSchema?_snoc, ← ih]
      unfold enter
      cases last.origin with
      | definition schema =>
          change Dict.get? (Dict.insert _ _ _) _ = _
          rw [Dict.get?_insert]
          split <;> rfl
      | custom codec =>
          change Dict.get? (ofLog earlier).schemas name = _
          rw [Origin.schema?, ite_self]
          rfl

/-- An alias stands for the full name that was the first to bring it. -/
theorem get?_aliases_ofLog (registrations : List Registration) (short : String) :
    Dict.get? (ofLog registrations).aliases short =
      (registrations.find? fun registration => registration.short = short).map
        Registration.fullName := by
  induction registrations using List.reverseRecOn with
  | nil => rfl
  | append_singleton earlier last ih =>
      have entered : ((ofLog earlier).enter last).aliases =
          Dict.insertNew (ofLog earlier).aliases last.short last.fullName := by
        unfold enter
        cases last.origin <;> rfl
      rw [ofLog_snoc, entered, Dict.get?_insertNew, ih, List.find?_append]
      cases earlier.find? fun registration => registration.short = short with
      | some first => rfl
      | none =>
          by_cases same : last.short = short <;> simp [same]

/-- No full name is listed twice. -/
theorem nodup_codecs_ofLog (registrations : List Registration) :
    (Dict.keys (ofLog registrations).codecs).Nodup := by
  induction registrations using List.reverseRecOn with
  | nil => exact List.nodup_nil
  | append_singleton earlier last ih =>
      rw [ofLog_snoc]
      unfold enter
      cases last.origin with
      | definition schema => exact Dict.nodup_keys_insert ih _ _
      | custom codec => exact Dict.nodup_keys_insert ih _ _

end Catalog

end TopicBridge
