import TopicBridge.Proofs.Catalog.Names

/-!
# Schemas and codecs

A definition sets the codec and the schema of a full name together.  A codec of
its own sets only the codec, so the schema of an earlier definition stays: it is
still handed out and nested in other types, while messages are written and read
by the other codec.  This is the one way in which schema and codec of a name can
disagree.
-/

namespace TopicBridge

namespace Catalog

/-- Where the codec comes from that a name is looked up by. -/
def origin? (catalog : Catalog) (registrations : List Registration) (name : String) :
    Option Origin :=
  (catalog.resolve? name).bind fun fullName =>
    (latest? registrations fullName).map Registration.origin

/-- The schema and the codec of a name agree. -/
structure Agrees (registrations : List Registration) (catalog : Catalog) (name : String) :
    Prop where
  /-- There is a schema exactly if the codec came from a definition, and it is the
  schema of that definition. -/
  schema : ∀ schema, catalog.schema? name = some schema ↔
    catalog.origin? registrations name = some (.definition schema)
  /-- The codec writes and reads as the schema does. -/
  codec : ∀ schema, catalog.schema? name = some schema →
    ∃ codec, catalog.lookup name = .ok codec ∧
      codec.encode = schema.encode ∧ codec.decode = schema.decode
  /-- What is nested in other types under the name is written and read as the
  type itself. -/
  nested : ∀ home package short schema,
    catalog.resolve? name = some (catalog.nestedName home package short) →
      catalog.resolveBase home (.named package short) = .ok (.message schema) →
        ∃ codec, catalog.lookup name = .ok codec ∧
          codec.encode = schema.encode ∧ codec.decode = schema.decode

/-- A full name that was registered from a definition, and last with a codec of
its own. -/
def Overridden (registrations : List Registration) (fullName : String) : Prop :=
  (∃ registration ∈ registrations, registration.fullName = fullName ∧
    ∃ schema, registration.origin = .definition schema) ∧
  ∃ last codec, latest? registrations fullName = some last ∧ last.origin = .custom codec

variable {registrations : List Registration} {name fullName : String}

theorem Origin.schema?_eq_some_iff {origin : Origin} {schema : Schema} :
    origin.schema? = some schema ↔ origin = .definition schema := by
  cases origin <;> simp [Origin.schema?]

/-- There is a schema exactly if there was a definition. -/
theorem exists_latestSchema?_iff :
    (∃ schema, latestSchema? registrations fullName = some schema) ↔
      ∃ registration ∈ registrations, registration.fullName = fullName ∧
        ∃ schema, registration.origin = .definition schema := by
  constructor
  · rintro ⟨schema, found⟩
    rcases List.exists_of_findSome?_eq_some found with ⟨registration, member, here⟩
    split at here
    · rename_i same
      exact ⟨registration, List.mem_reverse.mp member, same, schema,
        Origin.schema?_eq_some_iff.mp here⟩
    · cases here
  · rintro ⟨registration, member, same, schema, origin⟩
    rw [← Option.isSome_iff_exists, latestSchema?, List.isSome_findSome?, List.any_eq_true]
    refine ⟨registration, List.mem_reverse.mpr member, ?_⟩
    rw [if_pos same, origin]
    rfl

/-- A definition that was registered last gives the schema. -/
theorem latestSchema?_of_latest? {last : Registration} {schema : Schema}
    (found : latest? registrations fullName = some last) (origin : last.origin = .definition schema) :
    latestSchema? registrations fullName = some schema := by
  induction registrations using List.reverseRecOn with
  | nil => cases found
  | append_singleton earlier newest ih =>
      rw [latest?_snoc] at found
      rw [latestSchema?_snoc]
      by_cases same : newest.fullName = fullName
      · rw [if_pos same] at found
        cases found
        rw [if_pos same, origin]
        rfl
      · rw [if_neg same] at found
        rw [if_neg same, Option.none_or]
        exact ih found

theorem schema?_ofLog (resolved : (ofLog registrations).resolve? name = some fullName) :
    (ofLog registrations).schema? name = latestSchema? registrations fullName := by
  rw [schema?, resolved, Option.bind_some, get?_schemas_ofLog]

/-- What is nested under a full name is its schema. -/
theorem latestSchema?_of_resolveBase {home short : String} {package : Option String}
    {schema : Schema}
    (nested : (ofLog registrations).resolveBase home (.named package short) =
      .ok (.message schema)) :
    latestSchema? registrations ((ofLog registrations).nestedName home package short) =
      some schema := by
  rw [← get?_schemas_ofLog]
  unfold resolveBase at nested
  dsimp only at nested
  split at nested
  · rename_i found
    cases nested
    exact found
  · cases nested

/-- Under a name that was last registered from a definition, everything agrees. -/
theorem agrees_of_definition {last : Registration} {schema : Schema}
    (resolved : (ofLog registrations).resolve? name = some fullName)
    (found : latest? registrations fullName = some last) (origin : last.origin = .definition schema) :
    Agrees registrations (ofLog registrations) name := by
  have known : (ofLog registrations).schema? name = some schema :=
    (schema?_ofLog resolved).trans (latestSchema?_of_latest? found origin)
  have served : (ofLog registrations).origin? registrations name = some (.definition schema) := by
    rw [origin?, resolved, Option.bind_some, found, Option.map_some, origin]
  have written : (ofLog registrations).lookup name = .ok schema.codec := by
    rw [lookup_ofLog resolved found, origin]
    rfl
  constructor
  case schema =>
    intro other
    rw [known, served, Option.some.injEq, Option.some.injEq, Origin.definition.injEq]
  case codec =>
    intro other same
    rw [known] at same
    cases same
    exact ⟨schema.codec, written, rfl, rfl⟩
  case nested =>
    intro home package short other itself nested
    have same := latestSchema?_of_resolveBase nested
    rw [resolved] at itself
    rw [← Option.some.inj itself, latestSchema?_of_latest? found origin] at same
    cases same
    exact ⟨schema.codec, written, rfl, rfl⟩

/-- Under a name that was last registered with a codec of its own, everything
agrees exactly if there was no definition before. -/
theorem agrees_of_custom {last : Registration} {codec : Codec}
    (resolved : (ofLog registrations).resolve? name = some fullName)
    (found : latest? registrations fullName = some last) (origin : last.origin = .custom codec) :
    Agrees registrations (ofLog registrations) name ↔
      latestSchema? registrations fullName = none := by
  have known := schema?_ofLog resolved
  have served : (ofLog registrations).origin? registrations name = some (.custom codec) := by
    rw [origin?, resolved, Option.bind_some, found, Option.map_some, origin]
  constructor
  · intro agrees
    cases stale : latestSchema? registrations fullName with
    | none => rfl
    | some schema =>
        have defined := (agrees.schema schema).mp (known.trans stale)
        rw [served] at defined
        cases defined
  · intro undefined
    rw [undefined] at known
    constructor
    case schema =>
      intro schema
      rw [known, served]
      constructor <;> exact nofun
    case codec =>
      intro schema some
      rw [known] at some
      cases some
    case nested =>
      intro home package short schema itself nested
      have some := latestSchema?_of_resolveBase nested
      rw [resolved] at itself
      rw [← Option.some.inj itself, undefined] at some
      cases some

/-- A name that stands for nothing has neither schema nor codec. -/
theorem agrees_of_unresolved (unresolved : (ofLog registrations).resolve? name = none) :
    Agrees registrations (ofLog registrations) name := by
  have known : (ofLog registrations).schema? name = none := by
    rw [schema?, unresolved]
    rfl
  constructor
  case schema =>
    intro schema
    rw [known, origin?, unresolved]
    constructor <;> exact nofun
  case codec =>
    intro schema some
    rw [known] at some
    cases some
  case nested =>
    intro home package short schema itself
    rw [unresolved] at itself
    cases itself

/-- Whatever is asked of a new catalog, the schema and the codec of a name agree
unless a codec of its own has replaced that of a definition. -/
theorem agrees_iff_not_overridden (requests : List Request) (name : String) :
    Agrees (log {} requests) (afterAll {} requests) name ↔
      ¬ ∃ fullName, (afterAll {} requests).resolve? name = some fullName ∧
        Overridden (log {} requests) fullName := by
  rw [← ofLog_log]
  generalize log {} requests = registrations
  cases resolved : (ofLog registrations).resolve? name with
  | none =>
      refine iff_of_true (agrees_of_unresolved resolved) ?_
      rintro ⟨fullName, some, _⟩
      cases some
  | some fullName =>
      have registered := isSome_latest?_iff.mpr (exists_of_resolve? resolved)
      rcases Option.isSome_iff_exists.mp registered with ⟨last, found⟩
      have replaced : (∃ other, some fullName = some other ∧ Overridden registrations other) ↔
          Overridden registrations fullName := by
        simp
      rw [replaced]
      cases origin : last.origin with
      | definition schema =>
          refine iff_of_true (agrees_of_definition resolved found origin) ?_
          rintro ⟨_, newest, codec, found', origin'⟩
          rw [found] at found'
          cases found'
          rw [origin] at origin'
          cases origin'
      | custom codec =>
          rw [agrees_of_custom resolved found origin, Overridden,
            and_iff_left ⟨last, codec, found, origin⟩, ← exists_latestSchema?_iff,
            ← Option.isSome_iff_exists, Option.not_isSome_iff_eq_none]

/-- A type that is registered from a definition, and then with a codec that
carries texts. -/
def replaced : List Request :=
  [.register "demo/Count" "int32 data", .registerCodec "demo/Count" (Codec.raw "demo/Count")]

/-- The type is still said to have the schema of the definition, of which three
bytes are no message, while the codec reads them. -/
theorem not_agrees_replaced :
    let catalog := afterAll {} replaced
    (∃ schema, catalog.schema? "demo/Count" = some schema ∧
      (schema.decode [1, 2, 3]).toOption.isNone = true) ∧
    (∃ codec, catalog.lookup "demo/Count" = .ok codec ∧
      (codec.decode [1, 2, 3]).toOption.isSome = true) ∧
    ¬ Agrees (log {} replaced) catalog "demo/Count" := by
  have known : (afterAll {} replaced).schema? "demo/Count" =
      some ⟨"demo/Count", [⟨"data", .builtin (.int .w32), .single⟩], []⟩ := rfl
  refine ⟨⟨_, known, rfl⟩, ⟨Codec.raw "demo/Count", rfl, rfl⟩, ?_⟩
  intro agrees
  have defined := (agrees.schema _).mp known
  have served : (afterAll {} replaced).origin? (log {} replaced) "demo/Count" =
      some (.custom (Codec.raw "demo/Count")) := rfl
  rw [served] at defined
  cases defined

end Catalog

end TopicBridge
