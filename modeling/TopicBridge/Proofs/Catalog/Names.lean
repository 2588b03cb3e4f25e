import Mathlib.Data.List.Nodup
import TopicBridge.Proofs.Catalog.Log

/-!
# What names stand for

A full name stands for itself once it is registered, and a short name for the
full name that was the first to bring it.  No name is both, so what a name stands
for never changes again, whatever is registered later.
-/

namespace TopicBridge

namespace Catalog

/-- What the names of a catalog stand for after some requests to a new one. -/
structure NamesSettled (requests : List Request) (catalog : Catalog) : Prop where
  /-- An alias stands for a name that has a codec. -/
  aliased : ∀ short fullName, Dict.get? catalog.aliases short = some fullName →
    Dict.contains catalog.codecs fullName = true
  /-- A name that has a codec is no alias. -/
  apart : ∀ name, Dict.contains catalog.codecs name = true →
    Dict.contains catalog.aliases name = false
  resolves : ∀ name, catalog.contains name = true ↔
    ∃ fullName, catalog.resolve? name = some fullName
  found : ∀ name, catalog.contains name = true ↔ ∃ codec, catalog.lookup name = .ok codec
  idempotent : ∀ name fullName, catalog.resolve? name = some fullName →
    catalog.resolve? fullName = some fullName
  /-- A full name that was registered stands for itself. -/
  full : ∀ registration ∈ log {} requests,
    catalog.resolve? registration.fullName = some registration.fullName
  /-- A short name stands for the full name of the first registration under it. -/
  short : ∀ name first,
    (log {} requests).find? (fun registration => registration.short = name) = some first →
      catalog.resolve? name = some first.fullName
  /-- No other name stands for anything. -/
  only : ∀ name, (∀ registration ∈ log {} requests,
      registration.fullName ≠ name ∧ registration.short ≠ name) →
    catalog.resolve? name = none
  /-- What a name stands for, it stands for after any more requests. -/
  lasting : ∀ later name fullName, catalog.resolve? name = some fullName →
    (catalog.afterAll later).resolve? name = some fullName
  /-- A full name that a name stands for is listed once. -/
  listed : ∀ name fullName, catalog.resolve? name = some fullName →
    catalog.typeNames.count fullName = 1
  /-- A codec that came from a definition bears the full name. -/
  named : ∀ name fullName registration schema, catalog.resolve? name = some fullName →
    latest? (log {} requests) fullName = some registration →
      registration.origin = .definition schema →
        catalog.lookup name = .ok schema.codec ∧ schema.codec.typeName = fullName

variable {registrations : List Registration} {name fullName : String}

/-- There is a last registration under every full name that was registered. -/
theorem isSome_latest?_iff :
    (latest? registrations name).isSome = true ↔
      ∃ registration ∈ registrations, registration.fullName = name := by
  simp [latest?]

theorem fullName_of_latest? {registration : Registration}
    (last : latest? registrations name = some registration) : registration.fullName = name := by
  simpa using List.find?_some last

/-- The names with a codec are the full names that were registered. -/
theorem contains_codecs_iff :
    Dict.contains (ofLog registrations).codecs name = true ↔
      ∃ registration ∈ registrations, registration.fullName = name := by
  rw [Dict.contains, get?_codecs_ofLog, Option.isSome_map, isSome_latest?_iff]

/-- The first registration under a short name has no full name that is short. -/
theorem not_contains_codecs_of_short {first : Registration}
    (found : registrations.find? (fun registration => registration.short = name) = some first) :
    ¬ Dict.contains (ofLog registrations).codecs name = true := by
  have short : first.short = name := by simpa using List.find?_some found
  rw [contains_codecs_iff]
  rintro ⟨registration, _, same⟩
  exact first.short_ne_fullName registration (short.trans same.symm)

/-- A name stands for itself if it was registered, and else for the full name of
the first registration under it. -/
theorem resolve?_eq_some_iff :
    (ofLog registrations).resolve? name = some fullName ↔
      (∃ registration ∈ registrations, registration.fullName = name) ∧ name = fullName ∨
      ∃ first, registrations.find? (fun registration => registration.short = name) = some first ∧
        first.fullName = fullName := by
  unfold resolve?
  by_cases known : Dict.contains (ofLog registrations).codecs name = true
  · rw [if_pos known, Option.some.injEq]
    constructor
    · intro same
      exact Or.inl ⟨contains_codecs_iff.mp known, same⟩
    · rintro (⟨_, same⟩ | ⟨first, found, _⟩)
      · exact same
      · exact absurd known (not_contains_codecs_of_short found)
  · rw [if_neg known, get?_aliases_ofLog, Option.map_eq_some_iff]
    constructor
    · exact Or.inr
    · rintro (⟨registered, _⟩ | found)
      · exact absurd (contains_codecs_iff.mpr registered) known
      · exact found

/-- A name stands for a full name that was registered. -/
theorem exists_of_resolve? (resolved : (ofLog registrations).resolve? name = some fullName) :
    ∃ registration ∈ registrations, registration.fullName = fullName := by
  rcases resolve?_eq_some_iff.mp resolved with ⟨registered, same⟩ | ⟨first, found, same⟩
  · rw [← same]
    exact registered
  · exact ⟨first, List.mem_of_find?_eq_some found, same⟩

/-- Registrations that are added leave every name what it stands for. -/
theorem resolve?_append (resolved : (ofLog registrations).resolve? name = some fullName)
    (later : List Registration) :
    (ofLog (registrations ++ later)).resolve? name = some fullName := by
  rw [resolve?_eq_some_iff] at resolved ⊢
  rcases resolved with ⟨⟨registration, member, same⟩, itself⟩ | ⟨first, found, same⟩
  · exact Or.inl ⟨⟨registration, List.mem_append_left later member, same⟩, itself⟩
  · apply Or.inr
    refine ⟨first, ?_, same⟩
    rw [List.find?_append, found, Option.some_or]

/-- What is looked up is the codec of the last registration under the full
name. -/
theorem lookup_ofLog {registration : Registration}
    (resolved : (ofLog registrations).resolve? name = some fullName)
    (last : latest? registrations fullName = some registration) :
    (ofLog registrations).lookup name = .ok registration.origin.codec := by
  rw [lookup, resolved, Option.bind_some, get?_codecs_ofLog, last]
  rfl

/-- A name can be looked up exactly if it stands for something. -/
theorem lookup_eq_ok_iff :
    (∃ codec, (ofLog registrations).lookup name = .ok codec) ↔
      ∃ fullName, (ofLog registrations).resolve? name = some fullName := by
  constructor
  · rintro ⟨codec, found⟩
    cases resolved : (ofLog registrations).resolve? name with
    | some fullName => exact ⟨fullName, rfl⟩
    | none =>
        rw [lookup, resolved] at found
        cases found
  · rintro ⟨fullName, resolved⟩
    have registered := isSome_latest?_iff.mpr (exists_of_resolve? resolved)
    rcases Option.isSome_iff_exists.mp registered with ⟨registration, last⟩
    exact ⟨_, lookup_ofLog resolved last⟩

/-- Every full name that was registered is listed once. -/
theorem count_typeNames
    (registered : ∃ registration ∈ registrations, registration.fullName = fullName) :
    (ofLog registrations).typeNames.count fullName = 1 := by
  have listed : fullName ∈ Dict.keys (ofLog registrations).codecs :=
    (Dict.mem_keys_iff _ _).mpr (contains_codecs_iff.mpr registered)
  rw [typeNames, (List.mergeSort_perm _ _).count_eq]
  exact List.count_eq_one_of_mem (nodup_codecs_ofLog registrations) listed

/-- Whatever is asked of a new catalog, its names are settled. -/
theorem names_settled (requests : List Request) :
    NamesSettled requests (afterAll {} requests) := by
  rw [← ofLog_log]
  constructor
  case aliased =>
    intro short fullName found
    rw [get?_aliases_ofLog] at found
    rcases Option.map_eq_some_iff.mp found with ⟨first, found, same⟩
    exact contains_codecs_iff.mpr ⟨first, List.mem_of_find?_eq_some found, same⟩
  case apart =>
    intro name known
    rw [Dict.contains, get?_aliases_ofLog]
    cases found : (log {} requests).find? fun registration => registration.short = name with
    | none => rfl
    | some first => exact absurd known (not_contains_codecs_of_short found)
  case resolves =>
    intro name
    exact Option.isSome_iff_exists
  case found =>
    intro name
    rw [lookup_eq_ok_iff]
    exact Option.isSome_iff_exists
  case idempotent =>
    intro name fullName resolved
    exact resolve?_eq_some_iff.mpr (Or.inl ⟨exists_of_resolve? resolved, rfl⟩)
  case full =>
    intro registration member
    exact resolve?_eq_some_iff.mpr (Or.inl ⟨⟨registration, member, rfl⟩, rfl⟩)
  case short =>
    intro name first found
    exact resolve?_eq_some_iff.mpr (Or.inr ⟨first, found, rfl⟩)
  case only =>
    intro name unknown
    cases resolved : (ofLog (log {} requests)).resolve? name with
    | none => rfl
    | some fullName =>
        rcases resolve?_eq_some_iff.mp resolved with
          ⟨⟨registration, member, same⟩, _⟩ | ⟨first, found, _⟩
        · exact absurd same (unknown registration member).1
        · have same : first.short = name := by simpa using List.find?_some found
          exact absurd same (unknown first (List.mem_of_find?_eq_some found)).2
  case lasting =>
    intro later name fullName resolved
    have added : afterAll (ofLog (log {} requests)) later =
        ofLog (log {} requests ++ (afterAll {} requests).log later) := by
      rw [afterAll_eq, ofLog_log, ofLog, List.foldl_append, ← afterAll_eq {} requests]
    rw [added]
    exact resolve?_append resolved _
  case listed =>
    intro name fullName resolved
    exact count_typeNames (exists_of_resolve? resolved)
  case named =>
    intro name fullName registration schema resolved last origin
    have found := lookup_ofLog resolved last
    rw [origin] at found
    exact ⟨found, (registration.named schema origin).trans (fullName_of_latest? last)⟩

/-- The second point does not get the short name, and a definition that is
refused leaves no trace. -/
example :
    let catalog := afterAll {}
      [.register "geo/Point" "float64 x", .registerAll [("geo/Path", "Mark[] marks")],
        .registerCodec "raw/Point" (Codec.raw "raw/Bytes"), .register "geo/Point" "float32 x"]
    catalog.resolve? "Point" = some "geo/Point" ∧ catalog.resolve? "Path" = none ∧
      catalog.resolve? "raw/Point" = some "raw/Point" := by
  decide +kernel

end Catalog

end TopicBridge
