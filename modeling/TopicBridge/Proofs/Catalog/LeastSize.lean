import TopicBridge.Proofs.Catalog.Obtainable
import TopicBridge.Proofs.Wire.Filled

/-!
# Least sizes of registered types

The number of bytes that every element of a type takes at least is also what its
default takes, so no larger number would do.  It is computed with saturation, which
tells it apart from zero and keeps it below what a payload has to hold.

Where the number is zero, no element takes any bytes, and a payload of any length has
room for every count.  These are the types whose arrays have a limit of their own.
All others have none: the payload itself bounds the count.
-/

namespace TopicBridge

open Message Number Wire

/-- A type that registration gives: a registered message, or the type of a field anywhere
inside of one. -/
inductive ElementType.Obtainable : ElementType → Prop
  | message {schema : Schema} (registered : schema.Obtainable) : Obtainable (.message schema)
  | field {schema : Schema} {field : Field} (outer : Obtainable (.message schema))
      (member : field ∈ schema.fields) : Obtainable field.type

theorem ElementType.Obtainable.namesDistinct {type : ElementType} (obtainable : type.Obtainable) :
    type.NamesDistinct := by
  induction obtainable with
  | message registered => exact registered.namesDistinct
  | @field schema field _ member distinct =>
      rcases schema with ⟨_, fields, _⟩
      rcases field with ⟨_, _, _⟩
      exact AllNamesDistinct.of_mem distinct.2 member

/-! ## Arrays of a type -/

/-- An array of any length with more elements than the limit is refused for that, by the
writer and by the reader. -/
structure ElementType.IsLimited (type : ElementType) : Prop where
  written : ∀ (name path : String) (entries : Dict String Value) (items : List Value),
    Dict.get? entries name = some (.array items) → maxEmptyElements < items.length →
      Field.encode ⟨name, type, .sequence⟩ entries path =
        .error (.arrayLength (joinPath path name) maxEmptyElements items.length)
  read : ∀ (name : String) (count : Nat) (rest : Bytes), count < 256 ^ 4 →
    maxEmptyElements < count →
      Field.decode ⟨name, type, .sequence⟩ (littleEndian 4 count ++ rest) =
        .error (.arrayLength name maxEmptyElements count)

/-- An array of any length may have as many elements as its count word can hold: so many
defaults are written, and read back from what was written. -/
def ElementType.IsUnlimited (type : ElementType) : Prop :=
  ∀ (name path : String) (count : Nat), count < 256 ^ 4 → ∃ bytes,
    Writes (Field.encode ⟨name, type, .sequence⟩
      [(name, .array (List.replicate count type.default))] path) bytes ∧
    Field.decode ⟨name, type, .sequence⟩ bytes =
      .ok ((name, .array (List.replicate count type.default)), [])

/-- Whatever bound the length of a payload is to put on the number of elements, more can be
read off some payload. -/
def ElementType.IsUnbounded (type : ElementType) : Prop :=
  ∀ bound : Nat → Nat, ∃ count input taken,
    decodeItems type.decode count input = .ok taken ∧ bound input.length < count

/-! ## Elements one after another -/

theorem ElementType.decode_reads (type : ElementType) :
    Reads type.decode (fun value bytes => type.Layout value bytes) := by
  have same : type.decode = type.readBy .checked := funext type.decode_eq_readBy
  rw [same]
  exact type.readBy_reads Reader.checked_faithful

theorem Field.decode_reads (field : Field) :
    Reads field.decode (fun entry bytes => field.Layout entry bytes) := by
  have same : field.decode = field.readBy .checked := funext field.decode_eq_readBy
  rw [same]
  exact field.readBy_reads Reader.checked_faithful

/-- Elements are read one after another exactly off bytes that lay them out. -/
theorem ElementType.decodeItems_reads (type : ElementType) (count : Nat) :
    Reads (decodeItems type.decode count) fun value bytes =>
      ∃ items, (items.length = count ∧
        ItemsLayout (fun value bytes => type.Layout value bytes) items bytes) ∧
          value = .array items := by
  intro input value rest
  rw [decodeItems_eq]
  exact ((readItems_reads type.decode_reads count).map Value.array) input value rest

section Defaults

variable {type : ElementType}

/-- A number of defaults is laid out in so many times the least number of bytes, and written
as these bytes. -/
theorem ElementType.NamesDistinct.defaults (distinct : type.NamesDistinct) (count : Nat)
    (path : String) :
    ∃ bytes, bytes.length = count * type.leastBytes ∧
      ItemsLayout (fun value bytes => type.Layout value bytes)
        (List.replicate count type.default) bytes ∧
      Writes (encodeItems (fun item => type.encode (some item) path)
        (List.replicate count type.default)) bytes := by
  have missing := type.writes_none path
  obtain ⟨bytes, written, least⟩ :=
    @writes_replicate (fun value => type.encode value path) _ missing count
  obtain ⟨laid, again⟩ := (type.settles distinct path path).items _ written
  rw [List.map_replicate, type.normal_none] at laid again
  exact ⟨bytes, least, laid, again⟩

/-- One default is written in the least number of bytes. -/
theorem ElementType.NamesDistinct.default (distinct : type.NamesDistinct) (path : String) :
    ∃ bytes, bytes.length = type.leastBytes ∧ Writes (type.encode none path) bytes ∧
      Writes (type.encode (some type.default) path) bytes := by
  obtain ⟨bytes, written, least⟩ := type.writes_none path
  have again : Writes (type.encode (some (type.normal none)) path) bytes :=
    (type.settles distinct path path none bytes written).2
  rw [type.normal_none] at again
  exact ⟨bytes, least, written, again⟩

/-! ## The limit -/

/-- A payload bounds the number of elements exactly if each takes some bytes. -/
theorem ElementType.NamesDistinct.isUnbounded_iff (distinct : type.NamesDistinct) :
    type.IsUnbounded ↔ type.leastBytes = 0 := by
  constructor
  · intro unbounded
    by_contra positive
    obtain ⟨count, input, ⟨value, rest⟩, read, more⟩ := unbounded id
    obtain ⟨bytes, ⟨items, ⟨rfl, laid⟩, _⟩, rfl⟩ :=
      (type.decodeItems_reads count input value rest).mp read
    have total := laid.le_length type.leastBytes_le
    have one := Nat.le_mul_of_pos_right items.length (Nat.pos_of_ne_zero positive)
    rw [id, List.length_append] at more
    omega
  · intro zero bound
    obtain ⟨bytes, least, laid, _⟩ := distinct.defaults (bound 0 + 1) ""
    rw [zero, Nat.mul_zero] at least
    cases List.eq_nil_of_length_eq_zero least
    refine ⟨bound 0 + 1, [], (.array (List.replicate (bound 0 + 1) type.default), []), ?_,
      Nat.lt_succ_self _⟩
    exact (type.decodeItems_reads _ _ _ _).mpr
      ⟨[], ⟨_, ⟨List.length_replicate, laid⟩, rfl⟩, rfl⟩

theorem ElementType.isLimited_of_eq_zero (zero : type.leastBytes = 0) : type.IsLimited := by
  have least : type.leastSize = 0 := by rw [type.leastSize_eq, zero]; rfl
  constructor
  case written =>
    intro name path entries items given many
    rw [Field.encode, given, encodeShape, encodeSequence, least]
    exact if_pos (by simpa using many)
  case read =>
    intro name count rest fits many
    have counted : takeWord 4 (littleEndian 4 count ++ rest) = .ok (count, rest) :=
      (takeWord_reads 4 _ _ _).mpr ⟨_, ⟨fits, rfl⟩, rfl⟩
    have refused : checkCount name type.leastSize count rest =
        .error (.arrayLength name maxEmptyElements count) := by
      rw [checkCount, least]
      exact if_pos many
    rw [Field.decode, decodeShape, counted]
    change (checkCount name type.leastSize count rest >>= _) >>= _ = _
    rw [refused]
    rfl

theorem ElementType.NamesDistinct.isUnlimited (distinct : type.NamesDistinct)
    (positive : type.leastBytes ≠ 0) : type.IsUnlimited := by
  intro name path count fits
  obtain ⟨bytes, _, laid, written⟩ := distinct.defaults count (joinPath path name)
  have counted : (List.replicate count type.default).length = count := List.length_replicate
  generalize List.replicate count type.default = items at laid written counted ⊢
  subst counted
  have heavy : type.isWeightless = true → items.length ≤ maxEmptyElements := fun weightless =>
    absurd (type.leastBytes_eq_zero_iff.mpr weightless) positive
  obtain ⟨laidOut, wrote⟩ :=
    @settled_sequence type (fun value => type.encode value (joinPath path name)) _ _ _ laid written
      heavy fits (joinPath path name)
  refine ⟨littleEndian 4 items.length ++ bytes, ?_, ?_⟩
  · rw [Field.encode, Dict.get?_cons, if_pos rfl]
    exact wrote
  · exact (Field.decode_reads ⟨name, type, .sequence⟩ _ _ _).mpr
      ⟨_, ⟨rfl, laidOut⟩, (List.append_nil _).symm⟩

/-- The two exclude each other. -/
theorem ElementType.IsLimited.not_isUnlimited (limited : type.IsLimited) : ¬ type.IsUnlimited := by
  intro unlimited
  have many : maxEmptyElements < maxEmptyElements + 1 := Nat.lt_succ_self _
  obtain ⟨bytes, ⟨builder, written, _⟩, _⟩ := unlimited "" "" (maxEmptyElements + 1) (by decide)
  rw [limited.written "" "" _ _ (by rw [Dict.get?_cons, if_pos rfl])
    (by rwa [List.length_replicate])] at written
  cases written

end Defaults

/-! ## Exactness -/

/-- What the least number of bytes of a type says about its elements and arrays. -/
structure ElementType.LeastSizeExact (type : ElementType) : Prop where
  /-- The default, left out or spelled out, is written in that number of bytes. -/
  attained : ∀ path, ∃ bytes, bytes.length = type.leastBytes ∧
    Writes (type.encode none path) bytes ∧ Writes (type.encode (some type.default) path) bytes
  /-- No element is written in fewer bytes. -/
  written : ∀ value path bytes, Writes (type.encode value path) bytes →
    type.leastBytes ≤ bytes.length
  /-- No element is read off fewer bytes. -/
  read : ∀ input value rest, type.decode input = .ok (value, rest) →
    ∃ taken, input = taken ++ rest ∧ type.leastBytes ≤ taken.length
  /-- The size that counts are checked by is that number, or the largest word if no word
  can hold it. -/
  saturated : type.leastSize = min type.leastBytes (2 ^ 64 - 1)
  /-- If the number is zero, all elements are written in no bytes and read off none. -/
  weightless : type.leastBytes = 0 →
    (∀ value path bytes, Writes (type.encode value path) bytes → bytes = []) ∧
      ∀ input value rest, type.decode input = .ok (value, rest) → rest = input
  unbounded : type.IsUnbounded ↔ type.leastBytes = 0
  /-- The limit on elements holds of precisely the types whose arrays no length of a payload
  bounds. -/
  limited : type.IsLimited ↔ type.IsUnbounded
  unlimited : type.IsUnlimited ↔ ¬ type.IsUnbounded

/-- The least size of a registered type is the exact lower bound of what its elements take,
and zero for precisely the types whose arrays need a limit. -/
theorem ElementType.leastSize_exact {type : ElementType} (obtainable : type.Obtainable) :
    type.LeastSizeExact := by
  have distinct := obtainable.namesDistinct
  have unbounded := distinct.isUnbounded_iff
  have laid (value : Option Value) (path : String) (bytes : Bytes)
      (written : Writes (type.encode value path) bytes) :
      type.Layout (type.normal value) bytes :=
    (type.settles distinct path path value bytes written).1
  constructor
  case attained => exact distinct.default
  case written =>
    intro value path bytes written
    exact type.leastBytes_le _ _ (laid value path bytes written)
  case read =>
    intro input value rest read
    obtain ⟨taken, laid, split⟩ := (type.decode_reads input value rest).mp read
    exact ⟨taken, split, type.leastBytes_le value taken laid⟩
  case saturated => exact type.leastSize_eq
  case weightless =>
    intro zero
    have empty := type.eq_nil_of_isWeightless (type.leastBytes_eq_zero_iff.mp zero)
    constructor
    · intro value path bytes written
      exact empty _ _ (laid value path bytes written)
    · intro input value rest read
      obtain ⟨taken, laid, split⟩ := (type.decode_reads input value rest).mp read
      rw [split, empty value taken laid, List.nil_append]
  case unbounded => exact unbounded
  case limited =>
    rw [unbounded]
    constructor
    · intro limited
      by_contra positive
      exact limited.not_isUnlimited (distinct.isUnlimited positive)
    · exact isLimited_of_eq_zero
  case unlimited =>
    rw [unbounded]
    constructor
    · intro unlimited zero
      exact (isLimited_of_eq_zero zero).not_isUnlimited unlimited
    · exact distinct.isUnlimited

/-- A message without fields. -/
def markSchema : Schema where
  name := "geo/Mark"
  fields := []
  constants := []

/-- So many marks that their bytes would not fit a word if they had any, and a note. -/
def marksSchema : Schema where
  name := "geo/Marks"
  fields :=
    [⟨"marks", .message markSchema, .fixed (2 ^ 62)⟩, ⟨"size", .builtin (.uint .w16), .fixed 3⟩,
     ⟨"note", .builtin .string, .single⟩]
  constants := []

/-- A message of more bytes than a word can hold. -/
def worldSchema : Schema where
  name := "geo/World"
  fields :=
    [⟨"cells", .builtin (.uint .w64), .fixed (2 ^ 62)⟩, ⟨"marks", .message marksSchema, .fixed 2⟩]
  constants := []

theorem worldSchema_obtainable : worldSchema.Obtainable := by
  have mark : ({} : Catalog).register "geo/Mark" "" =
      .ok (markSchema, ⟨[("geo/Mark", markSchema.codec)], [("geo/Mark", markSchema)],
        [("Mark", "geo/Mark")]⟩) := rfl
  have marks : Catalog.register ⟨[("geo/Mark", markSchema.codec)], [("geo/Mark", markSchema)],
        [("Mark", "geo/Mark")]⟩ "geo/Marks"
        "Mark[4611686018427387904] marks\nuint16[3] size\nstring note" =
      .ok (marksSchema,
        ⟨[("geo/Mark", markSchema.codec), ("geo/Marks", marksSchema.codec)],
         [("geo/Mark", markSchema), ("geo/Marks", marksSchema)],
         [("Mark", "geo/Mark"), ("Marks", "geo/Marks")]⟩) := rfl
  exact ⟨_, "geo/World", "uint64[4611686018427387904] cells\nMarks[2] marks", _,
    (Catalog.Built.empty.register mark).register marks, rfl⟩

/-- The world takes `2 ^ 65` bytes for its cells and ten for either of its groups of marks,
which the reader takes for the largest word.  Arrays of worlds have no limit, and arrays of
marks have one. -/
theorem ElementType.leastSize_exact_world :
    (ElementType.message worldSchema).Obtainable ∧ (ElementType.message markSchema).Obtainable ∧
      (ElementType.message worldSchema).leastBytes = 2 ^ 65 + 20 ∧
      (ElementType.message worldSchema).leastSize = 2 ^ 64 - 1 ∧
      (ElementType.message worldSchema).IsUnlimited ∧
      (ElementType.message markSchema).IsLimited := by
  have world : (ElementType.message worldSchema).Obtainable := .message worldSchema_obtainable
  have marks : (ElementType.message marksSchema).Obtainable :=
    @Obtainable.field worldSchema ⟨"marks", .message marksSchema, .fixed 2⟩ world
      (List.mem_cons_of_mem _ List.mem_cons_self)
  have mark : (ElementType.message markSchema).Obtainable :=
    @Obtainable.field marksSchema ⟨"marks", .message markSchema, .fixed (2 ^ 62)⟩ marks
      List.mem_cons_self
  have least : (ElementType.message worldSchema).leastBytes = 2 ^ 65 + 20 := rfl
  have exact := ElementType.leastSize_exact world
  have limited := ElementType.leastSize_exact mark
  refine ⟨world, mark, least, ?_, ?_, limited.limited.mpr (limited.unbounded.mpr rfl)⟩
  · rw [exact.saturated, least]
    rfl
  · rw [exact.unlimited, exact.unbounded, least]
    decide

end TopicBridge
