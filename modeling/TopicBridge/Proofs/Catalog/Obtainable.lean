import TopicBridge.Catalog.Basic
import TopicBridge.Proofs.Wire.RoundTrip

/-!
# Schemas that registration gives

A definition that declares a field twice is refused, and a nested type is one
that was registered before.  So the fields of every schema that registration
gives have different names, at every level.  Such messages round trip.
-/

namespace TopicBridge

open Message

/-- A catalog that registrations have built. -/
inductive Catalog.Built : Catalog → Prop
  | empty : Built {}
  | register {catalog known : Catalog} {fullName text : String} {schema : Schema} :
      Built catalog → catalog.register fullName text = .ok (schema, known) → Built known
  | registerCodec {catalog known : Catalog} {fullName : String} {codec : Codec} :
      Built catalog → catalog.registerCodec fullName codec = .ok known → Built known

/-- A schema that registration gives. -/
def Schema.Obtainable (schema : Schema) : Prop :=
  ∃ catalog fullName text known, Catalog.Built catalog ∧
    catalog.register fullName text = .ok (schema, known)

/-! ## Definitions -/

/-- The declared fields have different names. -/
def Message.Definition.NamesDistinct (definition : Definition) : Prop :=
  (definition.fields.map FieldDecl.name).Nodup

theorem map_eq_ok_iff {ε α β : Type} {x : Except ε α} {f : α → β} {b : β} :
    x.map f = .ok b ↔ ∃ a, x = .ok a ∧ f a = b := by
  constructor
  · intro mapped
    cases x with
    | error e => cases mapped
    | ok a =>
        cases mapped
        exact ⟨a, rfl, rfl⟩
  · rintro ⟨a, rfl, rfl⟩
    rfl

theorem toOption_eq_some_iff {ε α : Type} {x : Except ε α} {a : α} :
    x.toOption = some a ↔ x = .ok a := by
  constructor
  · intro same
    cases x with
    | error e => cases same
    | ok b =>
        cases same
        rfl
  · rintro rfl
    rfl

namespace Message.Definition

variable {definition next : Definition}

/-- What a line that is read adds to a definition. -/
inductive Adds (definition : Definition) (line : List Char) : Definition → Prop
  | nothing (empty : content line = []) : Adds definition line definition
  | field {type name : List Char} {spec : TypeSpec}
      (uncut : Text.cutAt '=' (content line) = none)
      (declared : declared? (content line) = some (type, name))
      (fresh : String.ofList name ∉ definition.fields.map FieldDecl.name)
      (read : TypeSpec.parse type = .ok spec) :
      Adds definition line
        { definition with fields := definition.fields ++ [⟨String.ofList name, spec⟩] }
  | constant {declaration value type name : List Char} {spec : TypeSpec}
      (cut : Text.cutAt '=' (content line) = some (declaration, value))
      (declared : declared? declaration = some (type, name))
      (read : TypeSpec.parse type = .ok spec) :
      Adds definition line
        { definition with constants := definition.constants ++
            [⟨String.ofList name, spec, String.ofList (Text.trim value)⟩] }

theorem any_name_iff {name : String} :
    (definition.fields.any fun field => field.name = name) = true ↔
      name ∈ definition.fields.map FieldDecl.name := by
  simp

theorem addField_eq_ok_iff {line : List Char} :
    definition.addField line = .ok next ↔
      ∃ type name spec, declared? line = some (type, name) ∧
        String.ofList name ∉ definition.fields.map FieldDecl.name ∧
          TypeSpec.parse type = .ok spec ∧
            { definition with fields := definition.fields ++ [⟨String.ofList name, spec⟩] } =
              next := by
  unfold addField
  cases declared : declared? line with
  | none => simp
  | some parts =>
      obtain ⟨type, name⟩ := parts
      dsimp only
      constructor
      · intro added
        split at added
        · cases added
        · rename_i fresh
          obtain ⟨spec, read, made⟩ := map_eq_ok_iff.mp added
          exact ⟨type, name, spec, rfl, mt any_name_iff.mpr fresh, read, made⟩
      · rintro ⟨_, _, spec, ⟨⟩, fresh, read, made⟩
        rw [if_neg (mt any_name_iff.mp fresh)]
        exact map_eq_ok_iff.mpr ⟨spec, read, made⟩

theorem addConstant_eq_ok_iff {line declaration value : List Char} :
    definition.addConstant line declaration value = .ok next ↔
      ∃ type name spec, declared? declaration = some (type, name) ∧
        TypeSpec.parse type = .ok spec ∧
          { definition with constants := definition.constants ++
              [⟨String.ofList name, spec, String.ofList (Text.trim value)⟩] } = next := by
  unfold addConstant
  cases declared : declared? declaration with
  | none => simp
  | some parts =>
      obtain ⟨type, name⟩ := parts
      dsimp only
      constructor
      · intro added
        obtain ⟨spec, read, made⟩ := map_eq_ok_iff.mp added
        exact ⟨type, name, spec, rfl, read, made⟩
      · rintro ⟨_, _, spec, ⟨⟩, read, made⟩
        exact map_eq_ok_iff.mpr ⟨spec, read, made⟩

/-- A line is read exactly if it adds something, or is empty but for a comment. -/
theorem addLine_eq_ok_iff {line : List Char} :
    definition.addLine line = .ok next ↔ Adds definition line next := by
  unfold addLine
  constructor
  · intro added
    dsimp only at added
    split at added
    · rename_i empty
      cases added
      exact .nothing (List.isEmpty_iff.mp empty)
    · split at added
      · rename_i declaration value cut
        obtain ⟨type, name, spec, declared, read, rfl⟩ := addConstant_eq_ok_iff.mp added
        exact .constant cut declared read
      · rename_i uncut
        obtain ⟨type, name, spec, declared, fresh, read, rfl⟩ := addField_eq_ok_iff.mp added
        exact .field uncut declared fresh read
  · intro adds
    cases adds with
    | nothing empty => rw [empty]; rfl
    | field uncut declared fresh read =>
        have shown : ¬ (content line).isEmpty = true := by
          intro empty
          rw [List.isEmpty_iff.mp empty] at declared
          cases declared
        rw [if_neg shown, uncut]
        exact addField_eq_ok_iff.mpr ⟨_, _, _, declared, fresh, read, rfl⟩
    | constant cut declared read =>
        have shown : ¬ (content line).isEmpty = true := by
          intro empty
          rw [List.isEmpty_iff.mp empty] at cut
          cases cut
        rw [if_neg shown, cut]
        exact addConstant_eq_ok_iff.mpr ⟨_, _, _, declared, read, rfl⟩

theorem NamesDistinct.addLine (distinct : definition.NamesDistinct) {line : List Char}
    (added : definition.addLine line = .ok next) : next.NamesDistinct := by
  cases addLine_eq_ok_iff.mp added with
  | nothing => exact distinct
  | constant => exact distinct
  | @field type name spec uncut declared fresh read =>
      unfold NamesDistinct
      rw [List.map_append, List.nodup_append]
      refine ⟨distinct, List.nodup_cons.mpr ⟨List.not_mem_nil, List.nodup_nil⟩, ?_⟩
      intro first member second single same
      rw [List.map_singleton, List.mem_singleton] at single
      have own : first = String.ofList name := same.trans single
      exact fresh (own ▸ member)

/-- What holds of the empty definition and stays with every line holds of a definition
that is read. -/
theorem parse_induction {text : List Char} {holds : Definition → Prop} (empty : holds {})
    (step : ∀ line ∈ Text.lines text, ∀ definition next : Definition, holds definition →
      definition.addLine line = .ok next → holds next)
    (read : Definition.parse text = .ok next) : holds next := by
  unfold Definition.parse at read
  generalize ({} : Definition) = first at empty read
  generalize Text.lines text = lines at step read
  induction lines generalizing first with
  | nil =>
      cases read
      exact empty
  | cons line rest ih =>
      rw [List.foldlM_cons] at read
      rcases bind_eq_ok_iff.mp read with ⟨middle, added, read⟩
      obtain ⟨head, tail⟩ := List.forall_mem_cons.mp step
      exact ih middle (head first middle empty added) tail read

/-- A definition that is read declares each field once. -/
theorem namesDistinct_of_parse {text : List Char} (read : Definition.parse text = .ok next) :
    next.NamesDistinct :=
  parse_induction List.nodup_nil (fun _ _ _ _ distinct added => distinct.addLine added) read

end Message.Definition

/-! ## Catalogs -/

namespace Catalog

/-- The schemas of the catalog have fields of different names. -/
def NamesDistinct (catalog : Catalog) : Prop :=
  ∀ name schema, Dict.get? catalog.schemas name = some schema → schema.NamesDistinct

variable {catalog known : Catalog}

/-- Fields keep their names when their types are looked up. -/
theorem NamesDistinct.resolveFields (distinct : catalog.NamesDistinct) {home : String}
    {decls : List FieldDecl} {fields : List Field}
    (resolved : decls.mapM (catalog.resolveField home) = .ok fields) :
    fields.map Field.name = decls.map FieldDecl.name ∧ AllNamesDistinct fields := by
  induction decls generalizing fields with
  | nil =>
      cases resolved
      exact ⟨rfl, trivial⟩
  | cons decl rest ih =>
      rw [List.mapM_cons] at resolved
      rcases bind_eq_ok_iff.mp resolved with ⟨field, first, resolved⟩
      rcases bind_eq_ok_iff.mp resolved with ⟨others, later, same⟩
      cases same
      rcases ih later with ⟨names, nested⟩
      rcases map_eq_ok_iff.mp first with ⟨type, found, rfl⟩
      constructor
      · rw [List.map_cons, List.map_cons, names]
      · refine ⟨?_, nested⟩
        change type.NamesDistinct
        unfold resolveBase at found
        split at found
        · cases found
          trivial
        · dsimp only at found
          split at found
          · rename_i schema registered
            cases found
            exact distinct _ schema registered
          · cases found

/-- A schema that is registered has fields of different names. -/
theorem NamesDistinct.register (distinct : catalog.NamesDistinct) {fullName text : String}
    {schema : Schema} (registered : catalog.register fullName text = .ok (schema, known)) :
    schema.NamesDistinct ∧ known.NamesDistinct := by
  rcases bind_eq_ok_iff.mp registered with ⟨⟨home, short⟩, _, registered⟩
  rcases bind_eq_ok_iff.mp registered with ⟨built, build, same⟩
  cases same
  rcases bind_eq_ok_iff.mp build with ⟨definition, read, build⟩
  rcases bind_eq_ok_iff.mp build with ⟨fields, resolved, same⟩
  cases same
  rcases distinct.resolveFields resolved with ⟨names, nested⟩
  have own : Schema.NamesDistinct ⟨fullName, fields, definition.constants⟩ := by
    refine ⟨?_, nested⟩
    rw [names]
    exact Definition.namesDistinct_of_parse read
  refine ⟨own, ?_⟩
  intro name schema found
  change Dict.get? (Dict.insert catalog.schemas fullName _) name = some schema at found
  rw [Dict.get?_insert] at found
  split at found
  · cases found
    exact own
  · exact distinct name schema found

/-- The schemas of every catalog that registrations have built have fields of
different names. -/
theorem Built.namesDistinct (built : catalog.Built) : catalog.NamesDistinct := by
  induction built with
  | empty => exact fun _ _ found => nomatch found
  | register _ registered ih => exact (ih.register registered).2
  | registerCodec _ registered ih =>
      rcases map_eq_ok_iff.mp registered with ⟨parts, _, rfl⟩
      exact ih

/-- What a built catalog knows as a schema, registration gave. -/
theorem Built.obtainable (built : catalog.Built) {name : String} {schema : Schema}
    (found : Dict.get? catalog.schemas name = some schema) : schema.Obtainable := by
  induction built with
  | empty => cases found
  | @register catalog known fullName text new built registered ih =>
      rcases bind_eq_ok_iff.mp registered with ⟨⟨home, short⟩, _, accepted⟩
      rcases bind_eq_ok_iff.mp accepted with ⟨_, _, same⟩
      cases same
      change Dict.get? (Dict.insert catalog.schemas fullName new) name = some schema at found
      rw [Dict.get?_insert] at found
      split at found
      · cases found
        exact ⟨catalog, fullName, text, _, built, registered⟩
      · exact ih found
  | registerCodec _ registered ih =>
      rcases map_eq_ok_iff.mp registered with ⟨parts, _, rfl⟩
      exact ih found

/-- Types that are registered in order build a catalog, also when one of them is
refused. -/
theorem Built.registerAll (built : catalog.Built) (types : List (String × String)) :
    (catalog.registerAll types).2.Built := by
  induction types generalizing catalog with
  | nil => exact built
  | cons type rest ih =>
      rw [Catalog.registerAll]
      cases registered : catalog.register type.1 type.2 with
      | error e => exact built
      | ok made => exact ih (built.register registered)

end Catalog

theorem Schema.Obtainable.namesDistinct {schema : Schema} (obtainable : schema.Obtainable) :
    schema.NamesDistinct := by
  rcases obtainable with ⟨catalog, fullName, text, known, built, registered⟩
  exact (built.namesDistinct.register registered).1

/-! ## Round trips -/

/-- A message of a registered type that is written reads back as its normal
form, and the normal form is written as the same bytes. -/
theorem Schema.decode_encode {schema : Schema} (obtainable : schema.Obtainable) {value : Value}
    {bytes : Bytes} (encoded : schema.encode value = .ok bytes) :
    schema.decode bytes = .ok (schema.normal value) ∧
      schema.encode (schema.normal value) = .ok bytes := by
  rcases Schema.layout_normal obtainable.namesDistinct encoded with ⟨laid, again⟩
  refine ⟨?_, again⟩
  rw [schema.decode_eq_readBy]
  exact (Schema.readBy_eq_ok_iff Reader.checked_faithful).mpr laid

/-- A point with the time at which it was passed. -/
def pointSchema : Schema where
  name := "geo/Point"
  fields := [⟨"x", .builtin .float32, .single⟩, ⟨"at", .builtin .time, .single⟩]
  constants := []

def pathSchema : Schema where
  name := "geo/Path"
  fields :=
    [⟨"points", .message pointSchema, .fixed 2⟩,
     ⟨"raw", .builtin (.int .w8), .sequence⟩,
     ⟨"ok", .builtin .bool, .single⟩,
     ⟨"count", .builtin (.uint .w16), .single⟩]
  constants := []

theorem pathSchema_obtainable : pathSchema.Obtainable := by
  have point : ({} : Catalog).register "geo/Point" "float32 x\ntime at" =
      .ok (pointSchema, ⟨[("geo/Point", pointSchema.codec)], [("geo/Point", pointSchema)],
        [("Point", "geo/Point")]⟩) := rfl
  exact ⟨_, "geo/Path", "Point[2] points\nint8[] raw\nbool ok\nuint16 count", _,
    Catalog.Built.empty.register point, rfl⟩

/-- A path through two points, of which one is given in part and the other left
out, with a text for the bytes and a number of the wrong kind for each of the
other fields. -/
def roughPath : Value :=
  .table
    [("count", .float ⟨0x4008000000000000⟩),
     ("points", .array [.table [("x", .float ⟨0x3fb999999999999a⟩)]]),
     ("raw", .string "hi"),
     ("ok", .int 3)]

theorem Schema.decode_encode_roughPath :
    ∃ schema bytes, Schema.Obtainable schema ∧ schema.encode roughPath = .ok bytes ∧
      bytes = [0xcd, 0xcc, 0xcc, 0x3d, 0, 0, 0, 0, 0, 0, 0, 0, 0, 0, 0, 0, 0, 0, 0, 0, 0, 0, 0, 0,
        2, 0, 0, 0, 104, 105, 1, 3, 0] ∧
      schema.decode bytes = .ok (schema.normal roughPath) ∧
      schema.encode (schema.normal roughPath) = .ok bytes := by
  have encoded : pathSchema.encode roughPath =
      .ok [0xcd, 0xcc, 0xcc, 0x3d, 0, 0, 0, 0, 0, 0, 0, 0, 0, 0, 0, 0, 0, 0, 0, 0, 0, 0, 0, 0,
        2, 0, 0, 0, 104, 105, 1, 3, 0] :=
    toOption_eq_some_iff.mp (by decide +kernel)
  exact ⟨pathSchema, _, pathSchema_obtainable, encoded, rfl,
    Schema.decode_encode pathSchema_obtainable encoded⟩

end TopicBridge
