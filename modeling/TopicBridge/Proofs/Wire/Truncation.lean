import TopicBridge.Proofs.Wire.Acceptance

/-!
# Cut and extended payloads

A payload that is accepted says itself where it ends.  If it is cut short, then
reading comes to the end of the input, wherever the cut falls: whatever has been
read before the cut is read as in the whole payload, and no other check can fail
first.  If bytes follow it, then exactly these are left over.  So no payload of a
schema begins another one.
-/

namespace TopicBridge

open Message Number Text Wire

variable {α β : Type}

/-- Whatever is laid out, an input that ends before it does is found to end too
early. -/
def Starves (read : Bytes → Except WireError (α × Bytes)) (layout : α → Bytes → Prop) : Prop :=
  ∀ (a : α) (cut rest : Bytes), layout a (cut ++ rest) → rest ≠ [] →
    read cut = .error .unexpectedEnd

namespace Starves

variable {read : Bytes → Except WireError (α × Bytes)} {layout : α → Bytes → Prop}

/-- Less may be laid out. -/
theorem mono (starves : Starves read layout) {other : α → Bytes → Prop}
    (narrower : ∀ a bytes, other a bytes → layout a bytes) : Starves read other := by
  intro a cut rest laid more
  exact starves a cut rest (narrower a (cut ++ rest) laid) more

/-- What has one size is missed by any input that is shorter. -/
theorem of_length (size : Nat) (sized : ∀ a bytes, layout a bytes → bytes.length = size)
    (fails : ∀ input : Bytes, input.length < size → read input = .error .unexpectedEnd) :
    Starves read layout := by
  intro a cut rest laid more
  have whole := sized a (cut ++ rest) laid
  have positive := List.length_pos_iff.mpr more
  apply fails
  rw [← whole, List.length_append]
  exact Nat.lt_add_of_pos_right positive

/-- What is read may be turned into something else. -/
theorem map (starves : Starves read layout) (f : α → β) :
    Starves (fun input => do
        let (a, rest) ← read input
        return (f a, rest))
      (fun b bytes => ∃ a, layout a bytes ∧ b = f a) := by
  rintro b cut rest ⟨a, laid, -⟩ more
  dsimp only
  rw [starves a cut rest laid more]
  rfl

/-- The input may end in what is read first or in what is read after it. -/
theorem bind (starves : Starves read layout) (reads : Reads read layout)
    {next : α → Bytes → Except WireError (β × Bytes)} {layouts : α → β → Bytes → Prop}
    (continues : ∀ a, Starves (next a) (layouts a)) :
    Starves (fun input => do
        let (a, rest) ← read input
        next a rest)
      (fun b bytes => ∃ a first second, layout a first ∧ layouts a b second ∧
        bytes = first ++ second) := by
  rintro b cut rest ⟨a, first, second, laid, laid', split⟩ more
  have later (begun : Bytes) (reached : cut = first ++ begun) (left : second = begun ++ rest) :
      (do let (a, rest) ← read cut; next a rest) = .error .unexpectedEnd := by
    rw [(reads cut a begun).mpr ⟨first, laid, reached⟩]
    subst left
    exact continues a b begun rest laid' more
  rcases List.append_eq_append_iff.mp split with ⟨missing, rfl, rest_eq⟩ | ⟨begun, reached, left⟩
  · by_cases complete : missing = []
    · subst complete
      exact later [] (by simp) (by simpa using rest_eq.symm)
    · dsimp only
      rw [starves a cut missing laid complete]
      rfl
  · exact later begun reached left

end Starves

/-! ## Builtin elements -/

theorem takeWord_starves (count : Nat) :
    Starves (takeWord count) fun n bytes => n < 256 ^ count ∧ bytes = littleEndian count n := by
  refine Starves.of_length count ?_ fun _ short => takeWord_of_lt short
  rintro n _ ⟨-, rfl⟩
  exact length_littleEndian count n

theorem takeText_starves (count : Nat) :
    Starves (takeText count) fun value bytes => ∃ text, value = .string text ∧
      bytes = encodeUtf8 text ∧ text.utf8ByteSize = count := by
  apply Starves.of_length count
  · rintro _ _ ⟨text, -, rfl, sized⟩
    rw [length_encodeUtf8, sized]
  · intro input short
    rw [takeText, take_of_lt short]
    rfl

/-- All builtin types but one have elements of one size. -/
theorem Message.Builtin.Layout.length_eq {builtin : Builtin} (sized : builtin ≠ .string)
    {value : Value} {bytes : Bytes} (laid : builtin.Layout value bytes) :
    bytes.length = builtin.leastSize := by
  cases laid with
  | string => exact absurd rfl sized
  | _ => simp [Builtin.leastSize]

theorem decodeBuiltin_starves (builtin : Builtin) :
    Starves (decodeBuiltin builtin) builtin.Layout := by
  by_cases text : builtin = .string
  · subst text
    -- The text of a string may be cut, or the word before it that says how long it is.
    apply ((takeWord_starves 4).bind (takeWord_reads 4) takeText_starves).mono
    rintro _ _ ⟨⟩
    exact ⟨_, _, _, ⟨by assumption, rfl⟩, ⟨_, rfl, rfl, rfl⟩, rfl⟩
  · exact Starves.of_length builtin.leastSize (fun _ _ laid => laid.length_eq text) fun _ short =>
      decodeBuiltin_of_lt short

/-! ## Arrays -/

/-- A count that keeps the limit of weightless elements can only be refused because
the rest of the input is too short for it. -/
theorem checkCount_of_limited (name : String) {leastSize count : Nat} (rest : Bytes)
    (limited : leastSize = 0 → count ≤ maxEmptyElements) :
    checkCount name leastSize count rest = .ok () ∨
      checkCount name leastSize count rest = .error .unexpectedEnd := by
  unfold checkCount
  by_cases weightless : leastSize = 0
  · simp [weightless, Nat.not_lt.mpr (limited weightless)]
  · by_cases room : saturate (count * leastSize) ≤ rest.length <;> simp [weightless, room]

theorem readItems_starves {element : Bytes → Except WireError (Value × Bytes)}
    {layout : Value → Bytes → Prop} (starves : Starves element layout)
    (reads : Reads element layout) (count : Nat) :
    Starves (readItems element count)
      (fun items bytes => items.length = count ∧ ItemsLayout layout items bytes) := by
  induction count with
  | zero =>
      rintro items cut rest ⟨none, laid⟩ more
      have whole : cut ++ rest = [] := by
        cases List.eq_nil_of_length_eq_zero none
        generalize cut ++ rest = bytes at laid
        cases laid
        rfl
      exact absurd (List.append_eq_nil_iff.mp whole).2 more
  | succ count ih =>
      apply (starves.bind reads fun item => ih.map (item :: ·)).mono
      rintro items bytes ⟨counted, laid⟩
      cases laid with
      | nil => cases counted
      | @cons item items first rest head tail =>
          exact ⟨item, first, rest, head, ⟨items, ⟨Nat.succ.inj counted, tail⟩, rfl⟩, rfl⟩

/-- Once its count is read, an array keeps to the limit of weightless elements, so that
the check of the count and the elements can both only miss bytes. -/
theorem readCounted_starves (name : String) (type : ElementType)
    {element : Bytes → Except WireError (Value × Bytes)} {layout : Value → Bytes → Prop}
    (starves : Starves element layout) (reads : Reads element layout) (count : Nat) :
    Starves (fun input => do
        checkCount name type.leastSize count input
        let (items, rest) ← readItems element count input
        return (Value.array items, rest))
      (fun value bytes => (type.isWeightless = true → count ≤ maxEmptyElements) ∧
        ∃ items, (items.length = count ∧ ItemsLayout layout items bytes) ∧
          value = .array items) := by
  rintro value cut rest ⟨limited, laid⟩ more
  dsimp only
  rcases checkCount_of_limited name cut
      (fun none => limited (type.leastSize_eq_zero_iff.mp none)) with passed | refused
  · rw [passed]
    exact (readItems_starves starves reads count).map Value.array value cut rest laid more
  · rw [refused]
    rfl

/-- Fields of every shape starve, if their elements do. -/
theorem Reader.checked_shape_starves (name : String) (type : ElementType)
    {element : Bytes → Except WireError (Value × Bytes)} {layout : Value → Bytes → Prop}
    (starves : Starves element layout) (reads : Reads element layout) (shape : Shape) :
    Starves (Reader.checked.shape name type element shape)
      (shape.Layout layout type.isWeightless) := by
  cases shape with
  | single =>
      apply starves.mono
      rintro value bytes ⟨laid⟩
      assumption
  | sequence =>
      apply ((takeWord_starves 4).bind (takeWord_reads 4)
        (readCounted_starves name type starves reads)).mono
      intro value bytes laid
      cases laid with
      | sequence laid fits limited =>
          exact ⟨_, _, _, ⟨fits, rfl⟩, ⟨limited, _, ⟨rfl, laid⟩, rfl⟩, rfl⟩
  | fixed length =>
      apply ((readItems_starves starves reads length).map Value.array).mono
      rintro value bytes ⟨laid⟩
      exact ⟨_, ⟨rfl, by assumption⟩, rfl⟩

/-! ## Messages -/

mutual

/-- Elements of every type starve. -/
theorem ElementType.starves : ∀ type : ElementType,
    Starves (type.readBy .checked) (fun value bytes => type.Layout value bytes)
  | .builtin b => decodeBuiltin_starves b
  | .message schema => schema.starves
termination_by structural type => type

theorem Schema.starves : ∀ schema : Schema,
    Starves (schema.readFrom .checked) (fun value bytes => schema.Layout value bytes)
  | ⟨_, fields, _⟩ => by
      apply ((starves_fields fields).map Value.table).mono
      rintro value bytes ⟨entries, same, laid⟩
      exact ⟨entries, laid, same⟩
termination_by structural schema => schema

theorem starves_fields : ∀ fields : List Field,
    Starves (readFields .checked fields) (fun entries bytes => FieldsLayout fields entries bytes)
  | [] => by
      rintro entries cut rest ⟨-, whole⟩ more
      exact absurd (List.append_eq_nil_iff.mp whole).2 more
  | field :: later => by
      apply (field.starves.bind (field.readBy_reads Reader.checked_faithful) fun entry =>
        (starves_fields later).map (entry :: ·)).mono
      rintro _ _ ⟨entry, others, first, rest, rfl, rfl, head, tail⟩
      exact ⟨entry, first, rest, head, ⟨others, tail, rfl⟩, rfl⟩
termination_by structural fields => fields

theorem Field.starves : ∀ field : Field,
    Starves (field.readBy .checked) (fun entry bytes => field.Layout entry bytes)
  | ⟨name, type, shape⟩ => by
      apply ((Reader.checked_shape_starves name type type.starves
        (type.readBy_reads Reader.checked_faithful) shape).map (Prod.mk name)).mono
      rintro ⟨_, value⟩ bytes ⟨rfl, laid⟩
      exact ⟨value, laid, rfl⟩
termination_by structural field => field

end

/-- A payload that is cut short is refused for its end. -/
theorem Schema.decode_of_cut {schema : Schema} {value : Value} {cut rest : Bytes}
    (laid : schema.Layout value (cut ++ rest)) (more : rest ≠ []) :
    schema.decode cut = .error .unexpectedEnd := by
  rw [schema.decode_eq_readBy, Schema.readBy, schema.starves value cut rest laid more]
  rfl

/-- Of a payload with more bytes behind it exactly these are left over. -/
theorem Schema.decode_of_extended {schema : Schema} {value : Value} {payload extra : Bytes}
    (laid : schema.Layout value payload) (more : extra ≠ []) :
    schema.decode (payload ++ extra) = .error (.trailingBytes extra.length) := by
  have read : schema.readFrom .checked (payload ++ extra) = .ok (value, extra) :=
    (schema.readFrom_reads Reader.checked_faithful _ value extra).mpr ⟨payload, laid, rfl⟩
  have left : extra.isEmpty = false := List.isEmpty_eq_false_iff.mpr more
  rw [schema.decode_eq_readBy, Schema.readBy, read]
  change (if extra.isEmpty = true then _ else _) = _
  rw [left]
  rfl

/-- A payload that is accepted says where it ends: cut short anywhere, it is refused
for its end, and bytes behind it are reported by their number.  So no payload of the
schema begins another. -/
theorem Schema.decode_delimits {schema : Schema} {payload : Bytes} {value : Value}
    (decoded : schema.decode payload = .ok value) :
    (∀ cut, cut <+: payload → cut ≠ payload → schema.decode cut = .error .unexpectedEnd) ∧
    (∀ extra, extra ≠ [] →
      schema.decode (payload ++ extra) = .error (.trailingBytes extra.length)) ∧
    ∀ other, payload <+: other → (∃ found, schema.decode other = .ok found) → other = payload := by
  rw [schema.decode_eq_readBy] at decoded
  have laid := (Schema.readBy_eq_ok_iff Reader.checked_faithful).mp decoded
  have extended (extra : Bytes) (more : extra ≠ []) := Schema.decode_of_extended laid more
  refine ⟨?_, extended, ?_⟩
  · rintro cut ⟨rest, rfl⟩ strict
    apply Schema.decode_of_cut laid
    rintro rfl
    exact strict (List.append_nil cut).symm
  · rintro _ ⟨extra, rfl⟩ ⟨found, accepted⟩
    by_cases none : extra = []
    · rw [none, List.append_nil]
    · rw [extended extra none] at accepted
      cases accepted

/-- A level, texts and two marks. -/
def logSchema : Schema where
  name := "demo/Log"
  fields :=
    [⟨"level", .builtin (.uint .w8), .single⟩,
     ⟨"texts", .builtin .string, .sequence⟩,
     ⟨"marks", .builtin .bool, .fixed 2⟩]
  constants := []

def logPayload : Bytes :=
  [3, 2, 0, 0, 0, 2, 0, 0, 0, 104, 105, 0, 0, 0, 0, 1, 0]

/-- The first cut falls inside of the count of the texts and the second one inside of
the first text. -/
theorem Schema.decode_delimits_log :
    ∃ value, logSchema.decode logPayload = .ok value ∧
      logSchema.decode (logPayload.take 3) = .error .unexpectedEnd ∧
      logSchema.decode (logPayload.take 10) = .error .unexpectedEnd ∧
      logSchema.decode (logPayload ++ [0, 0]) = .error (.trailingBytes 2) ∧
      ¬ ∃ found, logSchema.decode (logPayload ++ [0, 0]) = .ok found := by
  have accepted : (logSchema.decode logPayload).toOption.isSome = true := by decide +kernel
  cases decoded : logSchema.decode logPayload with
  | error e =>
      rw [decoded] at accepted
      cases accepted
  | ok value =>
      have delimits := Schema.decode_delimits decoded
      refine ⟨value, rfl, delimits.1 _ (List.take_prefix 3 _) (by decide),
        delimits.1 _ (List.take_prefix 10 _) (by decide), delimits.2.1 [0, 0] (by decide), ?_⟩
      intro found
      exact absurd (delimits.2.2 _ (List.prefix_append _ _) found) (by decide)

end TopicBridge
