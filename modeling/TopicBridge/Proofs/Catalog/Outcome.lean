import Mathlib.Logic.Relation
import TopicBridge.Proofs.Catalog.Agreement

/-!
# What comes of a registration

A definition is registered exactly if its name is a package and a short name, its
text can be read, and every type that it nests is known.  What a nested type refers
to is told by the log: the schema of the last definition under a full name.  A short
name refers to the package of the new type first, and else to the full name that
was the first to bring it.

The new schema holds the nested schemas themselves, so it stays what it is whatever
is registered later.  A definition that is refused leaves the catalog as it was.
-/

namespace TopicBridge

open Message Text

/-- The full name is made of a package and a short name, both of them identifiers. -/
def IsFullName (fullName home short : String) : Prop :=
  isIdentifier home.toList = true ∧ isIdentifier short.toList = true ∧
    fullName = home ++ "/" ++ short

/-- What a base refers to in a definition for a package, after some registrations. -/
inductive Resolves (registrations : List Registration) (home : String) :
    BaseType → ElementType → Prop
  | builtin (b : Builtin) : Resolves registrations home (.builtin b) (.builtin b)
  /-- A full name refers to the schema registered under it. -/
  | full {package name : String} {schema : Schema}
      (known : Catalog.latestSchema? registrations (package ++ "/" ++ name) = some schema) :
      Resolves registrations home (.named (some package) name) (.message schema)
  /-- A short name refers to the package of the new type. -/
  | atHome {name : String} {schema : Schema}
      (known : Catalog.latestSchema? registrations (home ++ "/" ++ name) = some schema) :
      Resolves registrations home (.named none name) (.message schema)
  /-- Where that has no such schema, a short name refers to the first full name that
  brought it. -/
  | elsewhere {name : String} {first : Registration} {schema : Schema}
      (absent : Catalog.latestSchema? registrations (home ++ "/" ++ name) = none)
      (earliest : registrations.find? (fun registration => registration.short = name) = some first)
      (known : Catalog.latestSchema? registrations first.fullName = some schema) :
      Resolves registrations home (.named none name) (.message schema)

/-- A field of a schema is what a definition declares. -/
structure Declares (registrations : List Registration) (home : String) (decl : FieldDecl)
    (field : Field) : Prop where
  name : field.name = decl.name
  shape : field.shape = decl.type.shape
  type : Resolves registrations home decl.type.base field.type

/-- The schema has another one in a field. -/
def Schema.Nests (schema inner : Schema) : Prop :=
  ∃ field ∈ schema.fields, field.type = .message inner

/-- The fields have different names, which are identifiers. -/
def Schema.WellNamed (schema : Schema) : Prop :=
  (schema.fields.map Field.name).Nodup ∧
    ∀ field ∈ schema.fields, isIdentifier field.name.toList = true

namespace Catalog

/-- Definitions are registered one by one, and none of them is refused. -/
inductive Accepts : Catalog → List (String × String) → Catalog → Prop
  | nil {catalog : Catalog} : Accepts catalog [] catalog
  | cons {catalog known last : Catalog} {fullName text : String} {schema : Schema}
      {definitions : List (String × String)}
      (accepted : catalog.register fullName text = .ok (schema, known))
      (rest : Accepts known definitions last) :
      Accepts catalog ((fullName, text) :: definitions) last

/-- What comes of registering definitions after some requests to a new catalog. -/
structure RegistrationExact (requests : List Request) (catalog : Catalog) : Prop where
  accepted : ∀ fullName text,
    (∃ schema known, catalog.register fullName text = .ok (schema, known)) ↔
      ∃ home short definition, IsFullName fullName home short ∧
        Definition.parse text.toList = .ok definition ∧
          ∀ decl ∈ definition.fields, ∃ type, Resolves (log {} requests) home decl.type.base type
  /-- The schema has the declared fields in order, with the schemas that their types
  refer to now. -/
  described : ∀ fullName text schema known,
    catalog.register fullName text = .ok (schema, known) →
      ∃ home short definition, IsFullName fullName home short ∧
        Definition.parse text.toList = .ok definition ∧ schema.name = fullName ∧
          schema.constants = definition.constants ∧
            List.Forall₂ (Declares (log {} requests) home) definition.fields schema.fields
  /-- Fields have different names at every level. -/
  named : ∀ fullName text schema known,
    catalog.register fullName text = .ok (schema, known) →
      ∀ inner, Relation.ReflTransGen Schema.Nests schema inner → inner.WellNamed
  /-- The schema is known under its name, whatever is asked for later, until another
  definition is registered under the name. -/
  lasting : ∀ fullName text schema known,
    catalog.register fullName text = .ok (schema, known) →
      ∀ later, (∀ registration ∈ log known later, registration.fullName = fullName →
          registration.origin.schema? = none) →
        (known.afterAll later).schema? fullName = some schema
  /-- A definition that is refused is the same as none, now and later. -/
  refused : ∀ fullName text e, catalog.register fullName text = .error e →
    ∀ later, catalog.afterAll (.register fullName text :: later) = catalog.afterAll later
  /-- Of several definitions those before the first that is refused are registered. -/
  together : ∀ definitions, ∃ before rest, definitions = before ++ rest ∧
    Accepts catalog before (catalog.registerAll definitions).2 ∧
      (rest = [] ∧ (catalog.registerAll definitions).1 = .ok definitions.length ∨
        ∃ fullName text others e, rest = (fullName, text) :: others ∧
          (catalog.registerAll definitions).2.register fullName text = .error e ∧
            (catalog.registerAll definitions).1 = .error (.definition e))

end Catalog

/-! ## Names -/

/-- A text is cut at a separator that it has not had before. -/
theorem cutAt_append {separator : Char} {before : List Char} (absent : separator ∉ before)
    (after : List Char) :
    cutAt separator (before ++ separator :: after) = some (before, after) := by
  induction before with
  | nil => simp [cutAt]
  | cons c rest ih =>
      rw [List.mem_cons, not_or] at absent
      rw [List.cons_append, cutAt, if_neg (Ne.symm absent.1), ih absent.2]
      rfl

/-- The parts of a qualified name are the identifiers around its slash. -/
theorem Message.qualified?_eq_some_iff {cs : List Char} {package name : String} :
    qualified? cs = some (package, name) ↔
      isIdentifier package.toList = true ∧ isIdentifier name.toList = true ∧
        cs = package.toList ++ '/' :: name.toList := by
  constructor
  · intro qualified
    obtain ⟨⟨before, after⟩, cut, checked⟩ := Option.bind_eq_some_iff.mp qualified
    dsimp only at checked
    split at checked
    · rename_i identifiers
      cases checked
      rw [Bool.and_eq_true] at identifiers
      rw [String.toList_ofList, String.toList_ofList]
      exact ⟨identifiers.1, identifiers.2, (eq_append_of_cutAt cut).1⟩
    · cases checked
  · rintro ⟨first, second, rfl⟩
    have cut := cutAt_append (not_mem_of_isIdentifier (c := '/') (by decide) first) name.toList
    simp [qualified?, cut, first, second]

namespace Catalog

theorem splitName_eq_ok_iff {fullName home short : String} :
    splitName fullName = .ok (home, short) ↔ IsFullName fullName home short := by
  have joined : fullName.toList = home.toList ++ '/' :: short.toList ↔
      fullName = home ++ "/" ++ short := by
    rw [← String.toList_inj]
    simp
  rw [IsFullName, ← joined, ← qualified?_eq_some_iff]
  unfold splitName
  cases qualified? fullName.toList <;> simp

variable {catalog known : Catalog}

/-- What registering a definition does, step by step. -/
theorem register_eq_ok_iff {fullName text : String} {schema : Schema} :
    catalog.register fullName text = .ok (schema, known) ↔
      ∃ home short definition fields, splitName fullName = .ok (home, short) ∧
        Definition.parse text.toList = .ok definition ∧
          definition.fields.mapM (catalog.resolveField home) = .ok fields ∧
            schema = ⟨fullName, fields, definition.constants⟩ ∧
              known =
                { catalog with schemas := Dict.insert catalog.schemas fullName schema }.insertCodec
                  fullName short schema.codec := by
  constructor
  · intro registered
    obtain ⟨⟨home, short⟩, split, registered⟩ := bind_eq_ok_iff.mp registered
    obtain ⟨built, build, same⟩ := bind_eq_ok_iff.mp registered
    obtain ⟨definition, read, build⟩ := bind_eq_ok_iff.mp build
    obtain ⟨fields, resolved, sameSchema⟩ := bind_eq_ok_iff.mp build
    cases same
    cases sameSchema
    exact ⟨home, short, definition, fields, split, read, resolved, rfl, rfl⟩
  · rintro ⟨home, short, definition, fields, split, read, resolved, rfl, rfl⟩
    have build : catalog.buildSchema home fullName text =
        .ok ⟨fullName, fields, definition.constants⟩ :=
      bind_eq_ok_iff.mpr ⟨definition, read, bind_eq_ok_iff.mpr ⟨fields, resolved, rfl⟩⟩
    exact bind_eq_ok_iff.mpr ⟨(home, short), split, bind_eq_ok_iff.mpr ⟨_, build, rfl⟩⟩

end Catalog

/-! ## Nested types -/

theorem mapM_eq_ok_iff {ε α β : Type} {f : α → Except ε β} {items : List α} {results : List β} :
    items.mapM f = .ok results ↔
      List.Forall₂ (fun item result => f item = .ok result) items results := by
  induction items generalizing results with
  | nil =>
      rw [List.forall₂_nil_left_iff, List.mapM_nil]
      exact ⟨fun same => (Except.ok.inj same).symm, fun same => congrArg Except.ok same.symm⟩
  | cons item rest ih =>
      rw [List.mapM_cons, List.forall₂_cons_left_iff]
      constructor
      · intro done
        obtain ⟨first, head, done⟩ := bind_eq_ok_iff.mp done
        obtain ⟨others, tail, same⟩ := bind_eq_ok_iff.mp done
        cases same
        exact ⟨first, others, head, ih.mp tail, rfl⟩
      · rintro ⟨first, others, head, tail, rfl⟩
        exact bind_eq_ok_iff.mpr ⟨first, head, bind_eq_ok_iff.mpr ⟨others, ih.mpr tail, rfl⟩⟩

theorem exists_mapM_eq_ok_iff {ε α β : Type} {f : α → Except ε β} {items : List α} :
    (∃ results, items.mapM f = .ok results) ↔ ∀ item ∈ items, ∃ result, f item = .ok result := by
  induction items with
  | nil => simp [pure, Except.pure]
  | cons item rest ih =>
      rw [List.forall_mem_cons, ← ih, List.mapM_cons]
      constructor
      · rintro ⟨results, done⟩
        obtain ⟨first, head, done⟩ := bind_eq_ok_iff.mp done
        obtain ⟨others, tail, _⟩ := bind_eq_ok_iff.mp done
        exact ⟨⟨first, head⟩, others, tail⟩
      · rintro ⟨⟨first, head⟩, others, tail⟩
        exact ⟨first :: others,
          bind_eq_ok_iff.mpr ⟨first, head, bind_eq_ok_iff.mpr ⟨others, tail, rfl⟩⟩⟩

namespace Catalog

variable {registrations : List Registration} {home : String}

theorem nestedName_atHome {name : String} {schema : Schema}
    (known : latestSchema? registrations (home ++ "/" ++ name) = some schema) :
    (ofLog registrations).nestedName home none name = home ++ "/" ++ name := by
  rw [nestedName, Dict.contains, get?_schemas_ofLog, known]
  rfl

theorem nestedName_elsewhere {name : String}
    (absent : latestSchema? registrations (home ++ "/" ++ name) = none) :
    (ofLog registrations).nestedName home none name =
      ((registrations.find? fun registration => registration.short = name).map
        Registration.fullName).getD (home ++ "/" ++ name) := by
  rw [nestedName, Dict.contains, get?_schemas_ofLog, absent, get?_aliases_ofLog]
  rfl

/-- A named type is a schema that the catalog has. -/
theorem resolveNamed_eq_ok_iff {catalog : Catalog} {package : Option String} {name : String}
    {type : ElementType} :
    catalog.resolveBase home (.named package name) = .ok type ↔
      ∃ schema, Dict.get? catalog.schemas (catalog.nestedName home package name) = some schema ∧
        type = .message schema := by
  rw [resolveBase]
  cases Dict.get? catalog.schemas (catalog.nestedName home package name) with
  | none => simp
  | some schema => simp [eq_comm]

/-- A type is looked up as the log tells. -/
theorem resolveBase_eq_ok_iff {base : BaseType} {type : ElementType} :
    (ofLog registrations).resolveBase home base = .ok type ↔
      Resolves registrations home base type := by
  constructor
  · intro resolved
    cases base with
    | builtin b =>
        cases resolved
        exact Resolves.builtin b
    | named package name =>
        obtain ⟨schema, known, rfl⟩ := resolveNamed_eq_ok_iff.mp resolved
        rw [get?_schemas_ofLog] at known
        cases package with
        | some package => exact Resolves.full known
        | none =>
            cases here : latestSchema? registrations (home ++ "/" ++ name) with
            | some found =>
                rw [nestedName_atHome here] at known
                exact Resolves.atHome known
            | none =>
                rw [nestedName_elsewhere here] at known
                cases earliest : registrations.find? fun registration =>
                    registration.short = name with
                | some first =>
                    rw [earliest] at known
                    exact Resolves.elsewhere here earliest known
                | none =>
                    rw [earliest, Option.map_none, Option.getD_none, here] at known
                    cases known
  · intro resolves
    cases resolves with
    | builtin b => rfl
    | full known =>
        rw [resolveNamed_eq_ok_iff, get?_schemas_ofLog]
        exact ⟨_, known, rfl⟩
    | atHome known =>
        rw [resolveNamed_eq_ok_iff, get?_schemas_ofLog, nestedName_atHome known]
        exact ⟨_, known, rfl⟩
    | elsewhere absent earliest known =>
        rw [resolveNamed_eq_ok_iff, get?_schemas_ofLog, nestedName_elsewhere absent, earliest]
        exact ⟨_, known, rfl⟩

theorem resolveField_eq_ok_iff {decl : FieldDecl} {field : Field} :
    (ofLog registrations).resolveField home decl = .ok field ↔
      Declares registrations home decl field := by
  rw [resolveField, map_eq_ok_iff]
  constructor
  · rintro ⟨type, resolved, rfl⟩
    exact ⟨rfl, rfl, resolveBase_eq_ok_iff.mp resolved⟩
  · rintro ⟨name, shape, resolves⟩
    refine ⟨field.type, resolveBase_eq_ok_iff.mpr resolves, ?_⟩
    rcases field with ⟨_, _, _⟩
    cases name
    cases shape
    rfl

/-- A definition is accepted if its name is a full name, its text can be read, and every
type that it nests is known. -/
theorem exists_register_iff {fullName text : String} :
    (∃ schema known, (ofLog registrations).register fullName text = .ok (schema, known)) ↔
      ∃ home short definition, IsFullName fullName home short ∧
        Definition.parse text.toList = .ok definition ∧
          ∀ decl ∈ definition.fields, ∃ type, Resolves registrations home decl.type.base type := by
  have known (home : String) (decl : FieldDecl) :
      (∃ field, (ofLog registrations).resolveField home decl = .ok field) ↔
        ∃ type, Resolves registrations home decl.type.base type := by
    simp only [resolveField_eq_ok_iff]
    constructor
    · rintro ⟨field, declares⟩
      exact ⟨field.type, declares.type⟩
    · rintro ⟨type, resolves⟩
      exact ⟨⟨decl.name, type, decl.type.shape⟩, rfl, rfl, resolves⟩
  constructor
  · rintro ⟨schema, last, registered⟩
    obtain ⟨home, short, definition, fields, split, read, resolved, _, _⟩ :=
      register_eq_ok_iff.mp registered
    refine ⟨home, short, definition, splitName_eq_ok_iff.mp split, read, ?_⟩
    intro decl member
    exact (known home decl).mp (exists_mapM_eq_ok_iff.mp ⟨fields, resolved⟩ decl member)
  · rintro ⟨home, short, definition, name, read, resolve⟩
    obtain ⟨fields, resolved⟩ := exists_mapM_eq_ok_iff.mpr fun decl member =>
      (known home decl).mpr (resolve decl member)
    exact ⟨_, _, register_eq_ok_iff.mpr ⟨home, short, definition, fields,
      splitName_eq_ok_iff.mpr name, read, resolved, rfl, rfl⟩⟩

theorem describes_of_register {fullName text : String} {schema : Schema} {known : Catalog}
    (registered : (ofLog registrations).register fullName text = .ok (schema, known)) :
    ∃ home short definition, IsFullName fullName home short ∧
      Definition.parse text.toList = .ok definition ∧ schema.name = fullName ∧
        schema.constants = definition.constants ∧
          List.Forall₂ (Declares registrations home) definition.fields schema.fields := by
  obtain ⟨home, short, definition, fields, split, read, resolved, rfl, _⟩ :=
    register_eq_ok_iff.mp registered
  refine ⟨home, short, definition, splitName_eq_ok_iff.mp split, read, rfl, rfl, ?_⟩
  exact (mapM_eq_ok_iff.mp resolved).imp fun _ _ => resolveField_eq_ok_iff.mp

end Catalog

/-! ## Names of fields -/

namespace Message.Definition

variable {definition next : Definition}

/-- The declared fields have identifiers for names. -/
def NamesLegible (definition : Definition) : Prop :=
  ∀ decl ∈ definition.fields, isIdentifier decl.name.toList = true

theorem isIdentifier_of_declared? {line type name : List Char}
    (declared : declared? line = some (type, name)) : isIdentifier name = true := by
  unfold declared? at declared
  split at declared
  · split at declared
    · cases declared
      assumption
    · cases declared
  · cases declared

theorem NamesLegible.addLine (legible : definition.NamesLegible) {line : List Char}
    (added : definition.addLine line = .ok next) : next.NamesLegible := by
  cases addLine_eq_ok_iff.mp added with
  | nothing => exact legible
  | constant => exact legible
  | field _ declared =>
      intro decl member
      rcases List.mem_append.mp member with earlier | new
      · exact legible decl earlier
      · rw [List.mem_singleton.mp new, String.toList_ofList]
        exact isIdentifier_of_declared? declared

/-- Every name in a definition that is read is an identifier. -/
theorem namesLegible_of_parse {text : List Char} (read : Definition.parse text = .ok next) :
    next.NamesLegible :=
  parse_induction (fun _ member => nomatch member)
    (fun _ _ _ _ legible added => legible.addLine added) read

end Message.Definition

theorem exists_of_mapM {ε α β : Type} {f : α → Except ε β} {items : List α} {results : List β}
    (done : items.mapM f = .ok results) {result : β} (member : result ∈ results) :
    ∃ item ∈ items, f item = .ok result := by
  have each := mapM_eq_ok_iff.mp done
  clear done
  induction each with
  | nil => cases member
  | cons head _ ih =>
      rcases List.mem_cons.mp member with rfl | later
      · exact ⟨_, List.mem_cons_self, head⟩
      · obtain ⟨item, included, same⟩ := ih later
        exact ⟨item, List.mem_cons_of_mem _ included, same⟩

namespace Catalog

variable {catalog known : Catalog} {fullName text : String} {schema : Schema}

/-- The schemas of the catalog have legible fields at every level. -/
def WellNamed (catalog : Catalog) : Prop :=
  ∀ name schema, Dict.get? catalog.schemas name = some schema →
    ∀ inner, Relation.ReflTransGen Schema.Nests schema inner → inner.WellNamed

/-- A nested schema is one of the catalog. -/
theorem known_of_resolveBase {home : String} {base : BaseType}
    (resolved : catalog.resolveBase home base = .ok (.message schema)) :
    ∃ name, Dict.get? catalog.schemas name = some schema := by
  cases base with
  | builtin b => cases resolved
  | named package name =>
      obtain ⟨found, present, same⟩ := resolveNamed_eq_ok_iff.mp resolved
      cases same
      exact ⟨_, present⟩

theorem WellNamed.register (wellNamed : catalog.WellNamed) (distinct : catalog.NamesDistinct)
    (registered : catalog.register fullName text = .ok (schema, known)) (inner : Schema)
    (nested : Relation.ReflTransGen Schema.Nests schema inner) : inner.WellNamed := by
  have own := (distinct.register registered).1
  obtain ⟨home, short, definition, fields, _, read, resolved, rfl, _⟩ :=
    register_eq_ok_iff.mp registered
  have declared {field : Field} (member : field ∈ fields) : ∃ decl ∈ definition.fields,
      catalog.resolveField home decl = .ok field := exists_of_mapM resolved member
  rcases nested.cases_head with rfl | ⟨next, ⟨field, member, type⟩, deeper⟩
  · constructor
    · exact own.1
    · intro field member
      obtain ⟨decl, included, found⟩ := declared member
      obtain ⟨_, _, rfl⟩ := map_eq_ok_iff.mp found
      exact Definition.namesLegible_of_parse read decl included
  · obtain ⟨decl, _, found⟩ := declared member
    obtain ⟨found, base, rfl⟩ := map_eq_ok_iff.mp found
    cases type
    obtain ⟨name, present⟩ := known_of_resolveBase base
    exact wellNamed name next present inner deeper

/-- The schemas of every catalog that registrations have built have legible fields at
every level. -/
theorem Built.wellNamed (built : catalog.Built) : catalog.WellNamed := by
  induction built with
  | empty => exact fun _ _ found => nomatch found
  | @register catalog known fullName text schema built registered ih =>
      intro name other found
      obtain ⟨_, _, rfl⟩ := register_eq_ok registered
      change Dict.get? (Dict.insert catalog.schemas fullName schema) name = some other at found
      rw [Dict.get?_insert] at found
      split at found
      · cases found
        exact ih.register built.namesDistinct registered
      · exact ih name other found
  | registerCodec _ registered ih =>
      obtain ⟨parts, _, rfl⟩ := map_eq_ok_iff.mp registered
      exact ih

theorem Built.after (built : catalog.Built) (request : Request) :
    (catalog.after request).Built := by
  cases request with
  | register fullName text =>
      rw [Catalog.after]
      cases registered : catalog.register fullName text with
      | error e => exact built
      | ok made => exact built.register registered
  | registerAll definitions => exact built.registerAll definitions
  | registerCodec fullName codec =>
      rw [Catalog.after]
      cases registered : catalog.registerCodec fullName codec with
      | error e => exact built
      | ok made => exact built.registerCodec registered

theorem Built.afterAll (built : catalog.Built) (requests : List Request) :
    (catalog.afterAll requests).Built := by
  induction requests generalizing catalog with
  | nil => exact built
  | cons request rest ih => exact ih (built.after request)

/-! ## What stays -/

/-- What is registered is entered in the log. -/
theorem enter_of_register (registered : catalog.register fullName text = .ok (schema, known)) :
    ∃ registration : Registration, registration.fullName = fullName ∧
      registration.origin = .definition schema ∧ known = catalog.enter registration := by
  obtain ⟨qualified, named, rfl⟩ := register_eq_ok registered
  exact ⟨⟨fullName, .definition schema, qualified,
    fun _ same => Origin.definition.inj same ▸ named⟩, rfl, rfl, rfl⟩

theorem latestSchema?_append (registrations later : List Registration) (name : String) :
    latestSchema? (registrations ++ later) name =
      (latestSchema? later name).or (latestSchema? registrations name) := by
  rw [latestSchema?, List.reverse_append, List.findSome?_append]
  rfl

/-- The schema of a definition stays until another definition has the same name. -/
theorem schema?_of_register {registrations : List Registration}
    (registered : (ofLog registrations).register fullName text = .ok (schema, known))
    (later : List Request)
    (undefined : ∀ registration ∈ log known later, registration.fullName = fullName →
      registration.origin.schema? = none) :
    (known.afterAll later).schema? fullName = some schema := by
  obtain ⟨registration, rfl, origin, entered⟩ := enter_of_register registered
  rw [← ofLog_snoc] at entered
  have none : latestSchema? (log known later) registration.fullName = none := by
    rw [latestSchema?, List.findSome?_eq_none_iff]
    intro other member
    rw [List.mem_reverse] at member
    split
    · rename_i same
      exact undefined other member same
    · rfl
  have added : known.afterAll later =
      ofLog (registrations ++ [registration] ++ log known later) := by
    rw [afterAll_eq, ofLog, List.foldl_append, ← ofLog, ← entered]
  have itself : (ofLog (registrations ++ [registration] ++ log known later)).resolve?
      registration.fullName = some registration.fullName :=
    resolve?_eq_some_iff.mpr (Or.inl ⟨⟨registration, by simp, rfl⟩, rfl⟩)
  rw [added, schema?_ofLog itself, latestSchema?_append, none, latestSchema?_snoc, if_pos rfl,
    origin]
  rfl

/-! ## Several definitions -/

theorem registerAll_splits (catalog : Catalog) (definitions : List (String × String)) :
    ∃ before rest, definitions = before ++ rest ∧
      Accepts catalog before (catalog.registerAll definitions).2 ∧
        (rest = [] ∧ (catalog.registerAll definitions).1 = .ok definitions.length ∨
          ∃ fullName text others e, rest = (fullName, text) :: others ∧
            (catalog.registerAll definitions).2.register fullName text = .error e ∧
              (catalog.registerAll definitions).1 = .error (.definition e)) := by
  induction definitions generalizing catalog with
  | nil => exact ⟨[], [], rfl, Accepts.nil, Or.inl ⟨rfl, rfl⟩⟩
  | cons definition rest ih =>
      obtain ⟨fullName, text⟩ := definition
      cases registered : catalog.register fullName text with
      | error e =>
          rw [registerAll, registered]
          exact ⟨[], _, rfl, Accepts.nil, Or.inr ⟨fullName, text, rest, e, rfl, registered, rfl⟩⟩
      | ok made =>
          obtain ⟨before, left, rfl, accepts, outcome⟩ := ih made.2
          rw [registerAll, registered]
          refine ⟨(fullName, text) :: before, left, rfl, Accepts.cons registered accepts, ?_⟩
          rcases outcome with ⟨done, counted⟩ | ⟨name, body, others, e, next, refused, failed⟩
          · apply Or.inl
            refine ⟨done, ?_⟩
            simp only [counted]
            rfl
          · apply Or.inr
            refine ⟨name, body, others, e, next, refused, ?_⟩
            simp only [failed]
            rfl

/-- Whatever was asked of a new catalog before, registering definitions comes out
exactly so. -/
theorem registration_exact (requests : List Request) :
    RegistrationExact requests (afterAll {} requests) := by
  have built := Built.empty.afterAll requests
  constructor
  case accepted =>
    intro fullName text
    rw [← ofLog_log]
    exact exists_register_iff
  case described =>
    intro fullName text schema known registered
    rw [← ofLog_log] at registered
    exact describes_of_register registered
  case named =>
    intro fullName text schema known registered
    exact built.wellNamed.register built.namesDistinct registered
  case lasting =>
    intro fullName text schema known registered
    rw [← ofLog_log] at registered
    exact schema?_of_register registered
  case refused =>
    intro fullName text e refused later
    rw [afterAll, List.foldl_cons, after, refused]
    rfl
  case together => exact (afterAll {} requests).registerAll_splits

/-- The short name stands for a type without a schema, except where there is one at
home. -/
example :
    let catalog := afterAll {}
      [.registerCodec "raw/Point" (Codec.raw "raw/Point"), .register "geo/Point" "float64 x"]
    (catalog.register "demo/Path" "Point[] points").toOption.isNone = true ∧
      (catalog.register "geo/Path" "Point[] points").toOption.isSome = true := by
  decide +kernel

end Catalog

end TopicBridge
