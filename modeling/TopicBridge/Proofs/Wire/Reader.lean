import TopicBridge.Proofs.Wire.Layout

/-!
# Readers of the wire layout

A reader is what the reading of messages depends on: how builtin elements and
counts are taken off the front of a payload, and which counts are refused before
any element is read.  A faithful one takes off exactly what the layout says,
keeps the limit of weightless elements, and refuses no count that the rest of
the payload has room for.  Every faithful reader reads exactly the messages that
are laid out.
-/

namespace TopicBridge

open Message Number

variable {ε α β : Type}

theorem bind_eq_ok_iff {x : Except ε α} {f : α → Except ε β} {b : β} :
    x >>= f = .ok b ↔ ∃ a, x = .ok a ∧ f a = .ok b := by
  constructor
  · intro ran
    cases x with
    | error e => cases ran
    | ok a => exact ⟨a, rfl, ran⟩
  · rintro ⟨a, rfl, ran⟩
    exact ran

/-- What is taken off the front of an input is exactly what a layout says. -/
def Reads (read : Bytes → Except ε (α × Bytes)) (layout : α → Bytes → Prop) : Prop :=
  ∀ (input : Bytes) (a : α) (rest : Bytes),
    read input = .ok (a, rest) ↔ ∃ bytes, layout a bytes ∧ input = bytes ++ rest

namespace Reads

variable {read : Bytes → Except ε (α × Bytes)} {layout : α → Bytes → Prop}

theorem congr (reads : Reads read layout) {other : α → Bytes → Prop}
    (same : ∀ a bytes, layout a bytes ↔ other a bytes) : Reads read other := by
  intro input a rest
  rw [reads input a rest]
  simp only [same]

/-- What is read may be turned into something else. -/
theorem map (reads : Reads read layout) (f : α → β) :
    Reads (fun input => do
        let (a, rest) ← read input
        return (f a, rest))
      (fun b bytes => ∃ a, layout a bytes ∧ b = f a) := by
  intro input b rest
  rw [bind_eq_ok_iff]
  constructor
  · rintro ⟨⟨a, left⟩, taken, same⟩
    obtain ⟨bytes, laid, split⟩ := (reads input a left).mp taken
    cases same
    exact ⟨bytes, ⟨a, laid, rfl⟩, split⟩
  · rintro ⟨bytes, ⟨a, laid, rfl⟩, split⟩
    exact ⟨(a, rest), (reads input a rest).mpr ⟨bytes, laid, split⟩, rfl⟩

/-- What is read may decide what is read after it. -/
theorem bind (reads : Reads read layout) {next : α → Bytes → Except ε (β × Bytes)}
    {layouts : α → β → Bytes → Prop} (continues : ∀ a, Reads (next a) (layouts a)) :
    Reads (fun input => do
        let (a, rest) ← read input
        next a rest)
      (fun b bytes => ∃ a first second, layout a first ∧ layouts a b second ∧
        bytes = first ++ second) := by
  intro input b rest
  rw [bind_eq_ok_iff]
  constructor
  · rintro ⟨⟨a, left⟩, taken, more⟩
    obtain ⟨first, laid, split⟩ := (reads input a left).mp taken
    obtain ⟨second, laid', split'⟩ := (continues a left b rest).mp more
    exact ⟨first ++ second, ⟨a, first, second, laid, laid', rfl⟩,
      by rw [split, split', List.append_assoc]⟩
  · rintro ⟨_, ⟨a, first, second, laid, laid', rfl⟩, split⟩
    refine ⟨(a, second ++ rest), (reads input a (second ++ rest)).mpr ⟨first, laid, ?_⟩, ?_⟩
    · rw [split, List.append_assoc]
    · exact (continues a (second ++ rest) b rest).mpr ⟨second, laid', rfl⟩

end Reads

/-- How to read the parts that messages are made of. -/
structure Reader (ε : Type) where
  builtin : Builtin → Bytes → Except ε (Value × Bytes)
  count : Bytes → Except ε (Nat × Bytes)
  /-- Whether to go on with a number of elements, given what is left. -/
  check : (name : String) → ElementType → (count : Nat) → Bytes → Except ε Unit
  /-- The error of bytes that are left over. -/
  trailing : Nat → ε

/-- Read items one after another. -/
def readItems (element : Bytes → Except ε (Value × Bytes)) :
    (count : Nat) → Bytes → Except ε (List Value × Bytes)
  | 0, input => .ok ([], input)
  | count + 1, input => do
      let (item, rest) ← element input
      let (items, rest) ← readItems element count rest
      return (item :: items, rest)

/-- Read a field of some shape, given how to read its elements. -/
def Reader.shape (reader : Reader ε) (name : String) (type : ElementType)
    (element : Bytes → Except ε (Value × Bytes)) (shape : Shape) (input : Bytes) :
    Except ε (Value × Bytes) :=
  match shape with
  | .single => element input
  | .sequence => do
      let (count, rest) ← reader.count input
      reader.check name type count rest
      let (items, rest) ← readItems element count rest
      return (.array items, rest)
  | .fixed length => do
      let (items, rest) ← readItems element length input
      return (.array items, rest)

mutual

/-- Read an element by a reader. -/
def ElementType.readBy (reader : Reader ε) : ElementType → Bytes → Except ε (Value × Bytes)
  | .builtin b, input => reader.builtin b input
  | .message schema, input => schema.readFrom reader input
termination_by structural type => type

/-- Read a message off the front of the input. -/
def Schema.readFrom (reader : Reader ε) : Schema → Bytes → Except ε (Value × Bytes)
  | ⟨_, fields, _⟩, input => do
      let (entries, rest) ← readFields reader fields input
      return (.table entries, rest)
termination_by structural schema => schema

/-- Read fields one after another. -/
def readFields (reader : Reader ε) :
    List Field → Bytes → Except ε (Dict String Value × Bytes)
  | [], input => .ok ([], input)
  | field :: later, input => do
      let (entry, rest) ← field.readBy reader input
      let (entries, rest) ← readFields reader later rest
      return (entry :: entries, rest)
termination_by structural fields => fields

/-- Read a field as an entry of a table. -/
def Field.readBy (reader : Reader ε) : Field → Bytes → Except ε ((String × Value) × Bytes)
  | ⟨name, type, shape⟩, input => do
      let (value, rest) ← reader.shape name type (fun input => type.readBy reader input) shape input
      return ((name, value), rest)
termination_by structural field => field

end

/-- Read a payload that is one message and nothing else. -/
def Schema.readBy (reader : Reader ε) (schema : Schema) (payload : Bytes) : Except ε Value := do
  let (value, rest) ← schema.readFrom reader payload
  if rest.isEmpty then return value else .error (reader.trailing rest.length)

/-- A reader that takes exactly what is laid out, and refuses no count that the
rest of the payload has room for. -/
structure Reader.Faithful (reader : Reader ε) : Prop where
  builtin : ∀ b : Builtin, Reads (reader.builtin b) b.Layout
  count : Reads reader.count fun count bytes => count < 256 ^ 4 ∧ bytes = littleEndian 4 count
  limits : ∀ {name : String} {type : ElementType} {count : Nat} {rest : Bytes},
    reader.check name type count rest = .ok () → type.isWeightless = true →
      count ≤ maxEmptyElements
  admits : ∀ {name : String} {type : ElementType} {count : Nat} {rest : Bytes},
    (type.isWeightless = true → count ≤ maxEmptyElements) →
      count * type.leastSize ≤ rest.length → reader.check name type count rest = .ok ()

theorem readItems_reads {element : Bytes → Except ε (Value × Bytes)}
    {layout : Value → Bytes → Prop} (reads : Reads element layout) (count : Nat) :
    Reads (readItems element count)
      (fun items bytes => items.length = count ∧ ItemsLayout layout items bytes) := by
  induction count with
  | zero =>
      intro input items rest
      constructor
      · intro read
        cases read
        exact ⟨[], ⟨rfl, ItemsLayout.nil⟩, rfl⟩
      · rintro ⟨bytes, ⟨empty, laid⟩, rfl⟩
        cases List.eq_nil_of_length_eq_zero empty
        cases laid
        rfl
  | succ count ih =>
      refine (reads.bind fun item => ih.map (item :: ·)).congr ?_
      intro items bytes
      constructor
      · rintro ⟨item, first, second, head, ⟨rest, ⟨rfl, tail⟩, rfl⟩, rfl⟩
        exact ⟨rfl, ItemsLayout.cons head tail⟩
      · rintro ⟨counted, laid⟩
        cases laid with
        | nil => cases counted
        | @cons item items first rest head tail =>
            exact ⟨item, first, rest, head, ⟨items, ⟨Nat.succ.inj counted, tail⟩, rfl⟩, rfl⟩

/-- A faithful reader reads fields of every shape, if it reads their elements. -/
theorem Reader.Faithful.shape {reader : Reader ε} (faithful : reader.Faithful) (name : String)
    (type : ElementType) {element : Bytes → Except ε (Value × Bytes)}
    (reads : Reads element fun value bytes => type.Layout value bytes) (shape : Shape) :
    Reads (reader.shape name type element shape)
      (shape.Layout (fun value bytes => type.Layout value bytes) type.isWeightless) := by
  cases shape with
  | single =>
      refine reads.congr fun value bytes => ⟨Shape.Layout.single, ?_⟩
      rintro ⟨laid⟩
      assumption
  | fixed length =>
      refine ((readItems_reads reads length).map Value.array).congr fun value bytes => ?_
      constructor
      · rintro ⟨items, ⟨rfl, laid⟩, rfl⟩
        exact Shape.Layout.fixed laid
      · rintro ⟨laid⟩
        exact ⟨_, ⟨rfl, by assumption⟩, rfl⟩
  | sequence =>
      intro input value rest
      simp only [Reader.shape, bind_eq_ok_iff]
      constructor
      · rintro ⟨⟨count, left⟩, counted, _, checked, ⟨items, left'⟩, taken, same⟩
        obtain ⟨word, ⟨fits, rfl⟩, rfl⟩ := (faithful.count input count left).mp counted
        obtain ⟨bytes, ⟨rfl, laid⟩, rfl⟩ :=
          (readItems_reads reads count left items left').mp taken
        cases same
        exact ⟨_, Shape.Layout.sequence laid fits (faithful.limits checked), by simp⟩
      · rintro ⟨_, laid, rfl⟩
        cases laid with
        | @sequence items bytes laid counted limited =>
            have room : items.length * type.leastSize ≤ (bytes ++ rest).length := by
              have total := laid.le_length type.leastSize_le
              rw [List.length_append]
              omega
            refine ⟨(items.length, bytes ++ rest), ?_, (), faithful.admits limited room,
              (items, rest), ?_, rfl⟩
            · exact (faithful.count _ _ _).mpr ⟨_, ⟨counted, rfl⟩, by simp⟩
            · exact (readItems_reads reads items.length _ _ _).mpr ⟨bytes, ⟨rfl, laid⟩, rfl⟩

mutual

/-- A faithful reader reads the elements of every type. -/
theorem ElementType.readBy_reads {reader : Reader ε} (faithful : reader.Faithful) :
    ∀ type : ElementType,
      Reads (type.readBy reader) (fun value bytes => type.Layout value bytes)
  | .builtin b => faithful.builtin b
  | .message schema => schema.readFrom_reads faithful
termination_by structural type => type

theorem Schema.readFrom_reads {reader : Reader ε} (faithful : reader.Faithful) :
    ∀ schema : Schema,
      Reads (schema.readFrom reader) (fun value bytes => schema.Layout value bytes)
  | ⟨_, fields, _⟩ => by
      refine ((readFields_reads faithful fields).map Value.table).congr fun value bytes => ?_
      exact ⟨fun ⟨entries, laid, same⟩ => ⟨entries, same, laid⟩,
        fun ⟨entries, same, laid⟩ => ⟨entries, laid, same⟩⟩
termination_by structural schema => schema

theorem readFields_reads {reader : Reader ε} (faithful : reader.Faithful) :
    ∀ fields : List Field,
      Reads (readFields reader fields) (fun entries bytes => FieldsLayout fields entries bytes)
  | [] => by
      intro input entries rest
      constructor
      · intro read
        cases read
        exact ⟨[], ⟨rfl, rfl⟩, rfl⟩
      · rintro ⟨_, ⟨rfl, rfl⟩, rfl⟩
        rfl
  | field :: later => by
      refine ((field.readBy_reads faithful).bind fun entry =>
        (readFields_reads faithful later).map (entry :: ·)).congr fun entries bytes => ?_
      constructor
      · rintro ⟨entry, first, rest, head, ⟨others, tail, rfl⟩, rfl⟩
        exact ⟨entry, others, first, rest, rfl, rfl, head, tail⟩
      · rintro ⟨entry, others, first, rest, rfl, rfl, head, tail⟩
        exact ⟨entry, first, rest, head, ⟨others, tail, rfl⟩, rfl⟩
termination_by structural fields => fields

theorem Field.readBy_reads {reader : Reader ε} (faithful : reader.Faithful) :
    ∀ field : Field,
      Reads (field.readBy reader) (fun entry bytes => field.Layout entry bytes)
  | ⟨name, type, shape⟩ => by
      refine ((faithful.shape name type (type.readBy_reads faithful) shape).map
        (Prod.mk name)).congr fun entry bytes => ?_
      constructor
      · rintro ⟨value, laid, rfl⟩
        exact ⟨rfl, laid⟩
      · obtain ⟨_, value⟩ := entry
        rintro ⟨rfl, laid⟩
        exact ⟨value, laid, rfl⟩
termination_by structural field => field

end

/-- A faithful reader accepts exactly the payloads that lay out a message. -/
theorem Schema.readBy_eq_ok_iff {reader : Reader ε} (faithful : reader.Faithful)
    {schema : Schema} {payload : Bytes} {value : Value} :
    schema.readBy reader payload = .ok value ↔ schema.Layout value payload := by
  unfold Schema.readBy
  rw [bind_eq_ok_iff]
  constructor
  · rintro ⟨⟨read, rest⟩, taken, done⟩
    obtain ⟨bytes, laid, split⟩ := (schema.readFrom_reads faithful payload read rest).mp taken
    cases rest with
    | nil =>
        cases done
        rw [split, List.append_nil]
        exact laid
    | cons byte rest => cases done
  · intro laid
    exact ⟨(value, []), (schema.readFrom_reads faithful payload value []).mpr
      ⟨payload, laid, (List.append_nil payload).symm⟩, rfl⟩

/-! ## Errors -/

section MapError

variable {δ : Type} (f : ε → δ)

theorem bind_mapError (x : Except ε α) (next : α → Except ε β) :
    (x >>= next).mapError f = x.mapError f >>= fun a => (next a).mapError f := by
  cases x <;> rfl

/-- A reader with its errors turned into others. -/
def Reader.mapError (reader : Reader ε) : Reader δ where
  builtin b input := (reader.builtin b input).mapError f
  count input := (reader.count input).mapError f
  check name type count rest := (reader.check name type count rest).mapError f
  trailing count := f (reader.trailing count)

theorem readItems_mapError (element : Bytes → Except ε (Value × Bytes)) (count : Nat)
    (input : Bytes) :
    readItems (fun input => (element input).mapError f) count input =
      (readItems element count input).mapError f := by
  induction count generalizing input with
  | zero => rfl
  | succ count ih =>
      simp only [readItems, bind_mapError, ih]
      rfl

theorem Reader.shape_mapError (reader : Reader ε) (name : String) (type : ElementType)
    (element : Bytes → Except ε (Value × Bytes)) (shape : Shape) (input : Bytes) :
    (reader.mapError f).shape name type (fun input => (element input).mapError f) shape input =
      (reader.shape name type element shape input).mapError f := by
  cases shape with
  | single => rfl
  | sequence =>
      simp only [Reader.shape, bind_mapError, readItems_mapError]
      rfl
  | fixed length =>
      simp only [Reader.shape, bind_mapError, readItems_mapError]
      rfl

mutual

theorem ElementType.readBy_mapError (reader : Reader ε) :
    ∀ (type : ElementType) (input : Bytes),
      type.readBy (reader.mapError f) input = (type.readBy reader input).mapError f
  | .builtin _, _ => rfl
  | .message schema, input => schema.readFrom_mapError reader input
termination_by structural type => type

theorem Schema.readFrom_mapError (reader : Reader ε) :
    ∀ (schema : Schema) (input : Bytes),
      schema.readFrom (reader.mapError f) input = (schema.readFrom reader input).mapError f
  | ⟨_, fields, _⟩, input => by
      simp only [Schema.readFrom, bind_mapError, readFields_mapError reader fields]
      rfl
termination_by structural schema => schema

theorem readFields_mapError (reader : Reader ε) :
    ∀ (fields : List Field) (input : Bytes),
      readFields (reader.mapError f) fields input = (readFields reader fields input).mapError f
  | [], _ => rfl
  | field :: later, input => by
      simp only [readFields, bind_mapError, field.readBy_mapError reader,
        readFields_mapError reader later]
      rfl
termination_by structural fields => fields

theorem Field.readBy_mapError (reader : Reader ε) :
    ∀ (field : Field) (input : Bytes),
      field.readBy (reader.mapError f) input = (field.readBy reader input).mapError f
  | ⟨name, type, shape⟩, input => by
      simp only [Field.readBy, bind_mapError, type.readBy_mapError reader,
        Reader.shape_mapError]
      rfl
termination_by structural field => field

end

/-- Turning the errors of a reader into others changes nothing else. -/
theorem Schema.readBy_mapError (reader : Reader ε) (schema : Schema) (payload : Bytes) :
    schema.readBy (reader.mapError f) payload = (schema.readBy reader payload).mapError f := by
  simp only [Schema.readBy, bind_mapError, schema.readFrom_mapError]
  cases schema.readFrom reader payload with
  | error e => rfl
  | ok read =>
      obtain ⟨value, rest⟩ := read
      cases rest <;> rfl

end MapError

end TopicBridge
