import TopicBridge.Proofs.Wire.Element

/-!
# Writing and reading back

What is written is the layout of the normal form of the value, so it is read
back as the normal form.  Writing the normal form gives the same bytes again.
-/

namespace TopicBridge

open Message Number Text Wire

/-- Writing succeeds with the bytes. -/
def Writes (written : Except WireError Builder) (bytes : Bytes) : Prop :=
  ∃ builder, written = .ok builder ∧ builder.toBytes = bytes

/-- What is written lays out the normal form, and writing the normal form again,
perhaps at another path, gives the same bytes. -/
def Settles (write again : Option Value → Except WireError Builder) (normal : Option Value → Value)
    (layout : Value → Bytes → Prop) : Prop :=
  ∀ value bytes, Writes (write value) bytes →
    layout (normal value) bytes ∧ Writes (again (some (normal value))) bytes

/-! ## Items -/

section Items

variable {element again : Option Value → Except WireError Builder} {normal : Option Value → Value}
  {layout : Value → Bytes → Prop} {bytes : Bytes}

theorem writes_nil_iff {α : Type} {element : α → Except WireError Builder} :
    Writes (encodeItems element []) bytes ↔ bytes = [] := by
  constructor
  · rintro ⟨builder, written, rfl⟩
    cases written
    rfl
  · rintro rfl
    exact ⟨_, rfl, rfl⟩

theorem writes_cons_iff {α : Type} {element : α → Except WireError Builder} {item : α}
    {items : List α} :
    Writes (encodeItems element (item :: items)) bytes ↔
      ∃ first rest, Writes (element item) first ∧ Writes (encodeItems element items) rest ∧
        bytes = first ++ rest := by
  constructor
  · rintro ⟨builder, written, rfl⟩
    rcases bind_eq_ok_iff.mp written with ⟨parts, wrote, same⟩
    cases same
    rw [List.mapM_cons] at wrote
    rcases bind_eq_ok_iff.mp wrote with ⟨head, wroteHead, wrote⟩
    rcases bind_eq_ok_iff.mp wrote with ⟨tail, wroteTail, same⟩
    cases same
    exact ⟨_, _, ⟨head, wroteHead, rfl⟩,
      ⟨_, bind_eq_ok_iff.mpr ⟨tail, wroteTail, rfl⟩, rfl⟩, by simp⟩
  · rintro ⟨_, _, ⟨head, wroteHead, rfl⟩, ⟨builder, written, rfl⟩, rfl⟩
    rcases bind_eq_ok_iff.mp written with ⟨tail, wroteTail, same⟩
    cases same
    refine ⟨_, bind_eq_ok_iff.mpr ⟨head :: tail, ?_, rfl⟩, by simp⟩
    rw [List.mapM_cons]
    exact bind_eq_ok_iff.mpr ⟨head, wroteHead, bind_eq_ok_iff.mpr ⟨tail, wroteTail, rfl⟩⟩

theorem writes_append_iff {α : Type} {element : α → Except WireError Builder}
    {items others : List α} :
    Writes (encodeItems element (items ++ others)) bytes ↔
      ∃ first rest, Writes (encodeItems element items) first ∧
        Writes (encodeItems element others) rest ∧ bytes = first ++ rest := by
  induction items generalizing bytes with
  | nil => simp [writes_nil_iff]
  | cons item items ih =>
      rw [List.cons_append, writes_cons_iff]
      constructor
      · rintro ⟨first, _, head, tail, rfl⟩
        rcases ih.mp tail with ⟨middle, rest, wrote, wrote', rfl⟩
        exact ⟨first ++ middle, rest, writes_cons_iff.mpr ⟨first, middle, head, wrote, rfl⟩,
          wrote', (List.append_assoc _ _ _).symm⟩
      · rintro ⟨_, rest, wrote, wrote', rfl⟩
        rcases writes_cons_iff.mp wrote with ⟨first, middle, head, tail, rfl⟩
        exact ⟨first, middle ++ rest, head, ih.mpr ⟨middle, rest, tail, wrote', rfl⟩,
          List.append_assoc _ _ _⟩

/-- Items that are given are items that may be missing. -/
theorem encodeItems_some (items : List Value) :
    encodeItems (fun item => element (some item)) items =
      encodeItems element (items.map some) := by
  simp only [encodeItems, List.mapM_map]
  rfl

/-- Items settle one by one. -/
theorem Settles.items (settles : Settles element again normal layout)
    (items : List (Option Value)) (written : Writes (encodeItems element items) bytes) :
    ItemsLayout layout (items.map normal) bytes ∧
      Writes (encodeItems (fun item => again (some item)) (items.map normal)) bytes := by
  induction items generalizing bytes with
  | nil =>
      rcases writes_nil_iff.mp written with rfl
      exact ⟨ItemsLayout.nil, writes_nil_iff.mpr rfl⟩
  | cons item items ih =>
      rcases writes_cons_iff.mp written with ⟨first, rest, head, tail, rfl⟩
      rcases settles item first head with ⟨laid, same⟩
      rcases ih tail with ⟨laidRest, sameRest⟩
      exact ⟨ItemsLayout.cons laid laidRest,
        writes_cons_iff.mpr ⟨first, rest, same, sameRest, rfl⟩⟩

end Items

/-! ## Arrays -/

section Arrays

variable {type : ElementType} {element again : Option Value → Except WireError Builder}
  {normal : Option Value → Value} {layout : Value → Bytes → Prop} {bytes : Bytes}

/-- What an array of any length is written as. -/
theorem writes_sequence_iff {items : List Value} {path : String} :
    Writes (encodeSequence type element (some (.array items)) path) bytes ↔
      (type.isWeightless = true → items.length ≤ maxEmptyElements) ∧
        items.length < 256 ^ 4 ∧
          ∃ rest, Writes (encodeItems element (items.map some)) rest ∧
            bytes = littleEndian 4 items.length ++ rest := by
  rw [← encodeItems_some]
  have limit : (maxEmptyElements < items.length && type.leastSize == 0) = false ↔
      (type.isWeightless = true → items.length ≤ maxEmptyElements) := by
    rw [← type.leastSize_eq_zero_iff]
    by_cases many : maxEmptyElements < items.length
    · simp [many, Nat.not_le.mpr many]
    · simp [many, Nat.le_of_not_lt many]
  constructor
  · rintro ⟨builder, written, rfl⟩
    simp only [encodeSequence] at written
    split at written
    · cases written
    · rename_i allowed
      rcases bind_eq_ok_iff.mp written with ⟨count, counted, written⟩
      rcases bind_eq_ok_iff.mp written with ⟨elements, wrote, same⟩
      cases same
      rcases countWord_eq_ok counted with ⟨fits, rfl⟩
      exact ⟨limit.mp (Bool.eq_false_iff.mpr allowed), fits, _, ⟨elements, wrote, rfl⟩,
        by simp⟩
  · rintro ⟨limited, fits, _, ⟨elements, wrote, rfl⟩, rfl⟩
    refine ⟨(Builder.chunk (littleEndian 4 items.length)).append elements, ?_, by simp⟩
    simp only [encodeSequence, limit.mpr limited]
    exact bind_eq_ok_iff.mpr ⟨_, countWord_of_lt fits path,
      bind_eq_ok_iff.mpr ⟨elements, wrote, rfl⟩⟩

/-- What an array of fixed length is written as: the items, and a missing one for
each that is not given. -/
theorem writes_fixed_iff {items : List Value} {length : Nat} {path : String} :
    Writes (encodeFixed type element length (some (.array items)) path) bytes ↔
      items.length ≤ length ∧
        Writes (encodeItems element
          (items.map some ++ List.replicate (length - items.length) none)) bytes := by
  rw [writes_append_iff, ← encodeItems_some]
  constructor
  · rintro ⟨builder, written, rfl⟩
    simp only [encodeFixed] at written
    split at written
    · cases written
    · rename_i short
      rcases bind_eq_ok_iff.mp written with ⟨elements, wrote, written⟩
      rcases bind_eq_ok_iff.mp written with ⟨padding, padded, same⟩
      cases same
      exact ⟨Nat.le_of_not_lt short, _, _, ⟨elements, wrote, rfl⟩, ⟨padding, padded, rfl⟩,
        by simp⟩
  · rintro ⟨short, _, _, ⟨elements, wrote, rfl⟩, ⟨padding, padded, rfl⟩, rfl⟩
    refine ⟨elements.append padding, ?_, by simp⟩
    simp only [encodeFixed, if_neg (Nat.not_lt.mpr short)]
    exact bind_eq_ok_iff.mpr ⟨elements, wrote, bind_eq_ok_iff.mpr ⟨padding, padded, rfl⟩⟩

/-- A full array of fixed length has nothing to fill in. -/
theorem writes_fixed_full {items : List Value} {path : String}
    (written : Writes (encodeItems (fun item => element (some item)) items) bytes) :
    Writes (encodeFixed type element items.length (some (.array items)) path) bytes := by
  rw [encodeItems_some] at written
  apply writes_fixed_iff.mpr
  rw [Nat.sub_self, List.replicate_zero, List.append_nil]
  exact ⟨Nat.le_refl _, written⟩

/-- Each byte of a text is written as the item that it stands for. -/
def BytesSettle (type : ElementType) (again : Option Value → Except WireError Builder)
    (layout : Value → Bytes → Prop) : Prop :=
  type.isByte = true → ∀ byte, layout (type.byteItem byte) [byte] ∧
    Writes (again (some (type.byteItem byte))) [byte]

theorem BytesSettle.items (settles : BytesSettle type again layout) (isByte : type.isByte = true)
    (bytes : Bytes) :
    ItemsLayout layout (bytes.map type.byteItem) bytes ∧
      Writes (encodeItems (fun item => again (some item)) (bytes.map type.byteItem)) bytes := by
  induction bytes with
  | nil => exact ⟨ItemsLayout.nil, writes_nil_iff.mpr rfl⟩
  | cons byte rest ih =>
      rcases settles isByte byte with ⟨laid, wrote⟩
      exact ⟨ItemsLayout.cons laid ih.1,
        writes_cons_iff.mpr ⟨[byte], rest, wrote, ih.2, rfl⟩⟩

theorem ItemsLayout.append {items others : List Value} {rest : Bytes}
    (laid : ItemsLayout layout items bytes) (more : ItemsLayout layout others rest) :
    ItemsLayout layout (items ++ others) (bytes ++ rest) := by
  induction laid with
  | nil => exact more
  | cons head _ ih =>
      rw [List.append_assoc]
      exact ItemsLayout.cons head ih

theorem ElementType.isWeightless_of_isByte (isByte : type.isByte = true) :
    type.isWeightless = false := by
  cases type with
  | builtin b => rfl
  | message schema => cases isByte

/-- Writing the array of normal forms as an array of any length. -/
theorem settled_sequence {items : List Value} (laid : ItemsLayout layout items bytes)
    (wrote : Writes (encodeItems (fun item => again (some item)) items) bytes)
    (limited : type.isWeightless = true → items.length ≤ maxEmptyElements)
    (fits : items.length < 256 ^ 4) (path : String) :
    Shape.Layout layout type.isWeightless .sequence (.array items)
        (littleEndian 4 items.length ++ bytes) ∧
      Writes (encodeSequence type again (some (.array items)) path)
        (littleEndian 4 items.length ++ bytes) := by
  rw [encodeItems_some] at wrote
  exact ⟨Shape.Layout.sequence laid fits limited,
    writes_sequence_iff.mpr ⟨limited, fits, bytes, wrote, rfl⟩⟩

theorem Settles.sequence (settles : Settles element again normal layout)
    (byteSettles : BytesSettle type again layout) (path path' : String) :
    Settles (fun value => encodeSequence type element value path)
      (fun value => encodeSequence type again value path')
      (Shape.normal normal type.byteItem .sequence)
      (Shape.Layout layout type.isWeightless .sequence) := by
  intro value bytes written
  cases value with
  | none =>
      rcases written with ⟨builder, written, rfl⟩
      rcases bind_eq_ok_iff.mp written with ⟨count, counted, same⟩
      cases same
      rcases countWord_eq_ok counted with ⟨_, rfl⟩
      have settled : Shape.Layout layout type.isWeightless .sequence (.array [])
            (littleEndian 4 0 ++ []) ∧
          Writes (encodeSequence type again (some (.array [])) path') (littleEndian 4 0 ++ []) :=
        settled_sequence ItemsLayout.nil (writes_nil_iff.mpr rfl) (fun _ => Nat.zero_le _)
          (by decide) path'
      rw [List.append_nil] at settled
      rw [Builder.toBytes_chunk]
      exact settled
  | some value =>
      cases value with
      | array items =>
          rcases writes_sequence_iff.mp written with ⟨limited, fits, rest, wrote, rfl⟩
          rcases settles.items (items.map some) wrote with ⟨laid, same⟩
          rw [List.map_map] at laid same
          have counted : (items.map (normal ∘ some)).length = items.length := List.length_map _
          rw [← counted] at limited fits ⊢
          exact settled_sequence laid same limited fits path'
      | string text =>
          rcases written with ⟨builder, written, rfl⟩
          simp only [encodeSequence] at written
          split at written
          · rename_i isByte
            rcases bind_eq_ok_iff.mp written with ⟨count, counted, same⟩
            cases same
            rcases countWord_eq_ok counted with ⟨fits, rfl⟩
            rcases byteSettles.items isByte (encodeUtf8 text) with ⟨laid, wrote⟩
            have counted : ((encodeUtf8 text).map type.byteItem).length = text.utf8ByteSize := by
              rw [List.length_map, length_encodeUtf8]
            rw [← counted] at fits
            rw [Builder.toBytes_chunk, ← counted]
            refine settled_sequence laid wrote (fun weightless => ?_) fits path'
            rw [ElementType.isWeightless_of_isByte isByte] at weightless
            cases weightless
          · cases written
      | _ =>
          rcases written with ⟨_, written, _⟩
          cases written

/-- Writing the full array of normal forms as an array of fixed length. -/
theorem settled_fixed {items : List Value} {length : Nat} (full : items.length = length)
    (laid : ItemsLayout layout items bytes)
    (wrote : Writes (encodeItems (fun item => again (some item)) items) bytes) (path : String) :
    Shape.Layout layout type.isWeightless (.fixed length) (.array items) bytes ∧
      Writes (encodeFixed type again length (some (.array items)) path) bytes := by
  subst full
  exact ⟨Shape.Layout.fixed laid, writes_fixed_full wrote⟩

theorem Settles.fixed (settles : Settles element again normal layout)
    (byteSettles : BytesSettle type again layout) (length : Nat) (path path' : String) :
    Settles (fun value => encodeFixed type element length value path)
      (fun value => encodeFixed type again length value path')
      (Shape.normal normal type.byteItem (.fixed length))
      (Shape.Layout layout type.isWeightless (.fixed length)) := by
  intro value bytes written
  cases value with
  | none =>
      rcases settles.items (List.replicate length none) written with ⟨laid, same⟩
      rw [List.map_replicate] at laid same
      exact settled_fixed List.length_replicate laid same path'
  | some value =>
      cases value with
      | array items =>
          rcases writes_fixed_iff.mp written with ⟨short, wrote⟩
          rcases settles.items _ wrote with ⟨laid, same⟩
          rw [List.map_append, List.map_map, List.map_replicate] at laid same
          refine settled_fixed ?_ laid same path'
          rw [List.length_append, List.length_map, List.length_replicate]
          exact Nat.add_sub_cancel' short
      | string text =>
          rcases written with ⟨builder, written, rfl⟩
          simp only [encodeFixed] at written
          split at written
          · rename_i isByte
            split at written
            · cases written
            · rename_i short
              rcases bind_eq_ok_iff.mp written with ⟨padding, padded, same⟩
              cases same
              rcases byteSettles.items isByte (encodeUtf8 text) with ⟨laid, wrote⟩
              rcases settles.items _ ⟨padding, padded, rfl⟩ with ⟨laidRest, wroteRest⟩
              rw [List.map_replicate] at laidRest wroteRest
              rw [Builder.toBytes_append, Builder.toBytes_chunk]
              refine settled_fixed ?_ (laid.append laidRest)
                (writes_append_iff.mpr ⟨_, _, wrote, wroteRest, rfl⟩) path'
              rw [List.length_append, List.length_map, List.length_replicate, length_encodeUtf8]
              exact Nat.add_sub_cancel' (Nat.le_of_not_lt short)
          · cases written
      | _ =>
          rcases written with ⟨_, written, _⟩
          cases written

/-- Fields of every shape settle, if their elements do. -/
theorem Settles.shape (settles : Settles element again normal layout)
    (byteSettles : BytesSettle type again layout) (shape : Shape) (path path' : String) :
    Settles (fun value => encodeShape type element shape value path)
      (fun value => encodeShape type again shape value path')
      (shape.normal normal type.byteItem) (shape.Layout layout type.isWeightless) := by
  cases shape with
  | single =>
      intro value bytes written
      rcases settles value bytes written with ⟨laid, same⟩
      exact ⟨Shape.Layout.single laid, same⟩
  | sequence => exact settles.sequence byteSettles path path'
  | fixed length => exact settles.fixed byteSettles length path path'

end Arrays

/-! ## Messages -/

theorem writes_map_chunk_iff {written : Except WireError Bytes} {bytes : Bytes} :
    Writes (written.map .chunk) bytes ↔ written = .ok bytes := by
  constructor
  · rintro ⟨builder, mapped, rfl⟩
    cases written with
    | error e => cases mapped
    | ok given =>
        cases mapped
        rw [Builder.toBytes_chunk]
  · rintro rfl
    exact ⟨_, rfl, Builder.toBytes_chunk _⟩

theorem ofLittleEndianInt_byte (byte : UInt8) :
    ofLittleEndianInt [byte] = byte.toInt8.toInt := by
  have signed : byte.toInt8.toInt = Int.bmod byte.toNat (2 ^ 8) :=
    BitVec.toInt_eq_toNat_bmod byte.toBitVec
  rw [signed]
  rfl

/-- A byte is written as the integer that it is in the type. -/
theorem encodeBuiltin_byteItem {b : Builtin} (isByte : (ElementType.builtin b).isByte = true)
    (byte : UInt8) (path : String) :
    encodeBuiltin b (some ((ElementType.builtin b).byteItem byte)) path = .ok [byte] := by
  cases b with
  | int width =>
      cases width with
      | w8 =>
          have low := byte.toInt8.le_toInt
          have high := byte.toInt8.toInt_lt
          have word : (Int64.ofInt byte.toInt8.toInt).toInt = byte.toInt8.toInt :=
            Int64.toInt_ofInt_of_le (by omega) (by omega)
          have bounds : (signedRange .w8).low ≤ (Int64.ofInt byte.toInt8.toInt).toInt ∧
              (Int64.ofInt byte.toInt8.toInt).toInt < (signedRange .w8).high := by
            rw [word]
            exact ⟨low, high⟩
          have bytes := (ofLittleEndianInt_eq_iff.mp ⟨rfl, ofLittleEndianInt_byte byte⟩).2
          refine bind_eq_ok_iff.mpr ⟨_, integerAt_int bounds path, ?_⟩
          rw [word]
          exact congrArg Except.ok bytes.symm
      | _ => cases isByte
  | uint width =>
      cases width with
      | w8 =>
          have high : byte.toNat < 256 := byte.toNat_lt
          have word : (Int64.ofInt byte.toNat).toInt = byte.toNat :=
            Int64.toInt_ofInt_of_le (by omega) (by omega)
          have bounds : (unsignedRange .w8).low ≤ (Int64.ofInt byte.toNat).toInt ∧
              (Int64.ofInt byte.toNat).toInt < (unsignedRange .w8).high := by
            rw [word]
            exact ⟨Int.natCast_nonneg _, Int.ofNat_lt.mpr high⟩
          have bytes : littleEndianInt 1 byte.toNat = [byte] := by
            rw [littleEndianInt_natCast high, littleEndian, littleEndian, UInt8.ofNat_toNat]
          refine bind_eq_ok_iff.mpr ⟨_, integerAt_int bounds path, ?_⟩
          rw [word]
          exact congrArg Except.ok bytes
      | _ => cases isByte
  | _ => cases isByte

theorem ElementType.bytesSettle (type : ElementType) (path : String) :
    BytesSettle type (fun value => type.encode value path)
      (fun value bytes => type.Layout value bytes) := by
  intro isByte byte
  cases type with
  | message schema => cases isByte
  | builtin b =>
      have encoded := encodeBuiltin_byteItem isByte byte path
      have isNormal : b.normal (some ((ElementType.builtin b).byteItem byte)) =
          (ElementType.builtin b).byteItem byte := by
        cases b with
        | int width | uint width => cases width <;> rfl
        | _ => cases isByte
      have laid := (Builtin.settles encoded).laid
      rw [isNormal] at laid
      exact ⟨laid, writes_map_chunk_iff.mpr encoded⟩

/-- A table with the fields of a message for its keys has no unknown one. -/
theorem unknownKey?_of_keys_eq {fields : List Field} {entries : Dict String Value}
    (keys : Dict.keys entries = fields.map Field.name) :
    unknownKey? (fun key => fields.any fun field => field.name == key) entries = none := by
  rw [unknownKey?, keys, List.find?_eq_none]
  intro key member
  rcases List.mem_map.mp member with ⟨field, found, rfl⟩
  simpa using ⟨field, found, rfl⟩

/-- A table of normal forms has no unknown key. -/
theorem unknownKey?_normalEntries (fields : List Field) (entries : Dict String Value) :
    unknownKey? (fun key => fields.any fun field => field.name == key)
      (normalEntries fields entries) = none :=
  unknownKey?_of_keys_eq (keys_normalEntries fields entries)

mutual

/-- Elements of every type settle. -/
theorem ElementType.settles : ∀ type : ElementType, type.NamesDistinct → ∀ path path' : String,
    Settles (fun value => type.encode value path) (fun value => type.encode value path')
      (fun value => type.normal value) (fun value bytes => type.Layout value bytes)
  | .builtin b, _, path, path' => by
      intro value bytes written
      have settled := Builtin.settles (writes_map_chunk_iff.mp written)
      exact ⟨settled.laid, writes_map_chunk_iff.mpr (settled.again path')⟩
  | .message schema, distinct, path, path' => schema.settles distinct path path'
termination_by structural type => type

/-- Messages of every type settle. -/
theorem Schema.settles : ∀ schema : Schema, schema.NamesDistinct → ∀ path path' : String,
    Settles (fun value => schema.encodeAt value path) (fun value => schema.encodeAt value path')
      (fun value => schema.normalAt value) (fun value bytes => schema.Layout value bytes)
  | ⟨name, fields, constants⟩, ⟨distinct, nested⟩, path, path' => by
      intro value bytes written
      rcases written with ⟨builder, written, rfl⟩
      simp only [Schema.encodeAt] at written
      split at written
      · cases written
      · rename_i entries found
        split at written
        · cases written
        · rcases settles_fields fields nested entries path _ ⟨builder, written, rfl⟩ with
            ⟨laid, again⟩
          simp only [Schema.normalAt, found, Option.getD_some]
          constructor
          · exact ⟨_, rfl, laid⟩
          · rcases again (normalEntries fields entries) path'
              (fun _ member => get?_normalEntries distinct entries member) with
              ⟨builder', wrote, same⟩
            refine ⟨builder', ?_, same⟩
            simp only [Schema.encodeAt, Value.entries?, unknownKey?_normalEntries]
            exact wrote
termination_by structural schema => schema

/-- Fields settle, wherever their normal forms are looked up afterwards. -/
theorem settles_fields : ∀ fields : List Field, AllNamesDistinct fields →
    ∀ (entries : Dict String Value) (path : String) (bytes : Bytes),
      Writes (encodeFields fields entries path) bytes →
        FieldsLayout fields (normalEntries fields entries) bytes ∧
          ∀ (table : Dict String Value) (path' : String),
            (∀ field ∈ fields, Dict.get? table field.name = some (field.normalEntry entries).2) →
              Writes (encodeFields fields table path') bytes
  | [], _, _, _, _, written => by
      rcases written with ⟨builder, written, rfl⟩
      cases written
      exact ⟨⟨rfl, rfl⟩, fun _ _ _ => ⟨_, rfl, rfl⟩⟩
  | field :: rest, ⟨distinct, nested⟩, entries, path, bytes, written => by
      rcases written with ⟨builder, written, rfl⟩
      rcases bind_eq_ok_iff.mp written with ⟨first, wrote, written⟩
      rcases bind_eq_ok_iff.mp written with ⟨later, wroteRest, same⟩
      cases same
      rcases field.settles distinct entries path first.toBytes ⟨first, wrote, rfl⟩ with
        ⟨laid, again⟩
      rcases settles_fields rest nested entries path later.toBytes ⟨later, wroteRest, rfl⟩ with
        ⟨laidRest, againRest⟩
      rw [Builder.toBytes_append]
      constructor
      · exact ⟨_, _, _, _, rfl, rfl, laid, laidRest⟩
      · intro table path' looked
        rcases again table path' (looked field List.mem_cons_self) with ⟨first', wrote', same⟩
        rcases againRest table path' (fun other member =>
          looked other (List.mem_cons_of_mem _ member)) with ⟨later', wroteRest', sameRest⟩
        refine ⟨first'.append later', ?_, by rw [Builder.toBytes_append, same, sameRest]⟩
        exact bind_eq_ok_iff.mpr ⟨first', wrote', bind_eq_ok_iff.mpr ⟨later', wroteRest', rfl⟩⟩
termination_by structural fields => fields

/-- A field settles, wherever its normal form is looked up afterwards. -/
theorem Field.settles : ∀ field : Field, field.NamesDistinct →
    ∀ (entries : Dict String Value) (path : String) (bytes : Bytes),
      Writes (field.encode entries path) bytes →
        field.Layout (field.normalEntry entries) bytes ∧
          ∀ (table : Dict String Value) (path' : String),
            Dict.get? table field.name = some (field.normalEntry entries).2 →
              Writes (field.encode table path') bytes
  | ⟨name, type, shape⟩, distinct, entries, path, bytes, written => by
      have settles (path' : String) :=
        (type.settles distinct (joinPath path name) (joinPath path' name)).shape
          (type.bytesSettle (joinPath path' name)) shape (joinPath path name) (joinPath path' name)
          (Dict.get? entries name) bytes written
      constructor
      · exact ⟨rfl, (settles path).1⟩
      · intro table path' looked
        change Writes (encodeShape type (fun value => type.encode value (joinPath path' name)) shape
          (Dict.get? table name) (joinPath path' name)) bytes
        rw [looked]
        exact (settles path').2
termination_by structural field => field

end

/-- Messages whose fields have different names are written as the layout of
their normal form, which is written the same way. -/
theorem Schema.layout_normal {schema : Schema} (distinct : schema.NamesDistinct) {value : Value}
    {bytes : Bytes} (encoded : schema.encode value = .ok bytes) :
    schema.Layout (schema.normal value) bytes ∧
      schema.encode (schema.normal value) = .ok bytes := by
  have written : Writes (schema.encodeAt (some value) "") bytes := by
    unfold Schema.encode at encoded
    cases wrote : schema.encodeAt (some value) "" with
    | error e =>
        rw [wrote] at encoded
        cases encoded
    | ok builder =>
        rw [wrote] at encoded
        cases encoded
        exact ⟨builder, rfl, rfl⟩
  rcases schema.settles distinct "" "" (some value) bytes written with
    ⟨laid, builder, again, same⟩
  change schema.encodeAt (some (schema.normal value)) "" = .ok builder at again
  refine ⟨laid, ?_⟩
  rw [Schema.encode, again]
  exact congrArg Except.ok same

end TopicBridge
