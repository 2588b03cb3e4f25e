import TopicBridge.Proofs.Wire.Piece
import TopicBridge.Proofs.Wire.RoundTrip

/-!
# Writing what was read

A value that was read from pieces is written as the canonical pieces.  Writing
goes through them in order, so if some are refused, then it fails with the error
of the first of these.
-/

namespace TopicBridge

open Message Number Text Wire

/-- Writing gives the canonical pieces, or fails with the error of the first
piece that is refused. -/
def Resends (written : Except WireError Builder) (pieces : List Piece) : Prop :=
  match pieces.findSome? Piece.refusal? with
  | none => Writes written (canonicalPayload pieces)
  | some e => written = .error e

namespace Resends

variable {first second : Except WireError Builder} {pieces others : List Piece}

theorem of_none (accepted : pieces.findSome? Piece.refusal? = none)
    (wrote : Writes first (canonicalPayload pieces)) : Resends first pieces := by
  rw [Resends, accepted]
  exact wrote

theorem of_some {e : WireError} (refused : pieces.findSome? Piece.refusal? = some e)
    (failed : first = .error e) : Resends first pieces := by
  rw [Resends, refused]
  exact failed

/-- Pieces behind one another are written by writing one part behind the other, in
whatever way this is done. -/
theorem join {whole : Except WireError Builder} (head : Resends first pieces)
    (tail : Resends second others)
    (wrote : ∀ front back, Writes first front → Writes second back → Writes whole (front ++ back))
    (failed : ∀ e, first = .error e → whole = .error e)
    (failedLater : ∀ front e, Writes first front → second = .error e → whole = .error e) :
    Resends whole (pieces ++ others) := by
  unfold Resends at head tail ⊢
  rw [List.findSome?_append]
  cases refused : pieces.findSome? Piece.refusal? with
  | some e =>
      rw [refused] at head
      exact failed e head
  | none =>
      rw [refused] at head
      cases refusedLater : others.findSome? Piece.refusal? with
      | some e =>
          rw [refusedLater] at tail
          exact failedLater _ e head tail
      | none =>
          rw [refusedLater] at tail
          rw [canonicalPayload_append]
          exact wrote _ _ head tail

theorem append (head : Resends first pieces) (tail : Resends second others) :
    Resends (do
        let front ← first
        let back ← second
        return .append front back)
      (pieces ++ others) := by
  apply head.join tail
  · rintro _ _ ⟨front, rfl, rfl⟩ ⟨back, rfl, rfl⟩
    exact ⟨front.append back, rfl, Builder.toBytes_append front back⟩
  · rintro e rfl
    rfl
  · rintro _ e ⟨front, rfl, _⟩ rfl
    rfl

end Resends

/-! ## Items and shapes -/

section Items

variable {α : Type} {element : α → Except WireError Builder} {item : α} {items : List α}

theorem encodeItems_eq_error_iff {e : WireError} :
    encodeItems element items = .error e ↔ items.mapM element = .error e := by
  unfold encodeItems
  cases items.mapM element with
  | error e => exact ⟨fun failed => by cases failed; rfl, fun failed => by cases failed; rfl⟩
  | ok parts => exact ⟨(nomatch ·), (nomatch ·)⟩

theorem Resends.nil : Resends (encodeItems element []) [] :=
  Resends.of_none rfl (writes_nil_iff.mpr rfl)

/-- Items are written one after another, until one of them fails. -/
theorem Resends.cons {pieces others : List Piece} (head : Resends (element item) pieces)
    (tail : Resends (encodeItems element items) others) :
    Resends (encodeItems element (item :: items)) (pieces ++ others) := by
  apply head.join tail
  · intro front back wrote wroteRest
    exact writes_cons_iff.mpr ⟨front, back, wrote, wroteRest, rfl⟩
  · intro e failed
    rw [encodeItems_eq_error_iff, List.mapM_cons, failed]
    rfl
  · rintro _ e ⟨front, wrote, _⟩ failed
    rw [encodeItems_eq_error_iff] at failed ⊢
    rw [List.mapM_cons, wrote, failed]
    rfl

end Items

section Shapes

variable {type : ElementType} {element : Option Value → Except WireError Builder}
  {split : Value → List Piece → Prop}

theorem ItemsPieces.resends
    (each : ∀ value pieces, split value pieces → Resends (element (some value)) pieces)
    {items : List Value} {pieces : List Piece} (parts : ItemsPieces split items pieces) :
    Resends (encodeItems (fun item => element (some item)) items) pieces := by
  induction parts with
  | nil => exact Resends.nil
  | @cons item items first rest head _ ih =>
      refine Resends.cons ?_ ih
      exact each item first head

/-- An array within its limits is written as its count and its items. -/
theorem encodeSequence_array {items : List Value} (counted : items.length < 256 ^ 4)
    (limited : type.isWeightless = true → items.length ≤ maxEmptyElements) (path : String) :
    encodeSequence type element (some (.array items)) path = (do
      let count ← .ok (.chunk (littleEndian 4 items.length))
      let elements ← encodeItems (fun item => element (some item)) items
      return .append count elements) := by
  have allowed : ¬ (maxEmptyElements < items.length && type.leastSize == 0) = true := by
    simp only [Bool.and_eq_true, decide_eq_true_eq, beq_iff_eq, type.leastSize_eq_zero_iff]
    rintro ⟨many, weightless⟩
    exact absurd (limited weightless) (Nat.not_le.mpr many)
  simp only [encodeSequence]
  rw [if_neg allowed, countWord_of_lt counted path]
  rfl

/-- A full array of fixed length is written as its items. -/
theorem encodeFixed_full (items : List Value) (path : String) :
    encodeFixed type element items.length (some (.array items)) path = (do
      let elements ← encodeItems (fun item => element (some item)) items
      let padding ← encodeItems element []
      return .append elements padding) := by
  simp only [encodeFixed]
  rw [if_neg (Nat.lt_irrefl _), Nat.sub_self, List.replicate_zero]

/-- Fields of every shape are written piece by piece, if their elements are. -/
theorem Message.Shape.Pieces.resends
    (each : ∀ value pieces, split value pieces → Resends (element (some value)) pieces)
    {shape : Shape} {value : Value} {pieces : List Piece}
    (parts : shape.Pieces split type.isWeightless value pieces) (path : String) :
    Resends (encodeShape type element shape (some value) path) pieces := by
  cases parts with
  | single parts => exact each _ _ parts
  | @sequence items pieces parts counted limited =>
      have count : Resends (.ok (.chunk (littleEndian 4 items.length))) [.count items.length] := by
        refine Resends.of_none rfl ⟨_, rfl, ?_⟩
        rw [Builder.toBytes_chunk, canonicalPayload_singleton]
        rfl
      rw [encodeShape, encodeSequence_array counted limited path]
      exact count.append (parts.resends each)
  | @fixed items _ parts =>
      rw [encodeShape, encodeFixed_full items path, ← List.append_nil pieces]
      exact (parts.resends each).append Resends.nil

end Shapes

/-! ## Builtin elements -/

theorem integerAt_of_none {range : Range} {value : Value} (absent : value.asInt? = none)
    (path : String) : integerAt range (some value) path = .error (.typeMismatch path .integer) := by
  simp only [integerAt, absent]

theorem signedRange_of_fitsSigned {width : Width} {i : Int} (fits : FitsSigned width.bytes i) :
    (Int64.ofInt i).toInt = i ∧ (signedRange width).low ≤ i ∧ i < (signedRange width).high := by
  rcases fits with ⟨low, high⟩
  have bounds : (signedRange width).low ≤ i ∧ i < (signedRange width).high := by
    cases width <;> simp only [signedRange, Width.bytes] at low high ⊢ <;> omega
  have word : -2 ^ 63 ≤ i ∧ i < 2 ^ 63 := by
    cases width <;> simp only [Width.bytes] at low high <;> omega
  exact ⟨Int64.toInt_ofInt_of_le word.1 word.2, bounds⟩

theorem unsignedRange_of_lt {width : Width} {n : Nat} (fits : n < 256 ^ width.bytes)
    (small : n < 2 ^ 63) :
    (Int64.ofInt n).toInt = n ∧
      (unsignedRange width).low ≤ (n : Int) ∧ (n : Int) < (unsignedRange width).high := by
  refine ⟨Int64.toInt_ofInt_of_le (by omega) (by omega), Int.natCast_nonneg n, ?_⟩
  cases width <;> simp only [unsignedRange, Width.bytes] at fits ⊢ <;> omega

section Builtins

variable {builtin : Builtin} {value : Value} {bytes : Bytes} {path : String}

theorem Resends.element (accepted : (Piece.element path builtin bytes).refusal? = none)
    (wrote : encodeBuiltin builtin (some value) path = .ok (builtin.canonical bytes)) :
    Resends ((encodeBuiltin builtin (some value) path).map .chunk)
      [.element path builtin bytes] := by
  apply Resends.of_none
  · rw [List.findSome?_singleton, accepted]
  · rw [writes_map_chunk_iff, wrote, canonicalPayload_singleton]
    rfl

/-- A builtin element is written as the canonical bytes, unless it is an unsigned
word that no script integer holds. -/
theorem Message.Builtin.Layout.resends (laid : builtin.Layout value bytes) (path : String) :
    Resends ((encodeBuiltin builtin (some value) path).map .chunk)
      [.element path builtin bytes] := by
  cases laid with
  | bool byte =>
      apply Resends.element rfl
      rw [canonical_bool]
      rfl
  | @int width i fits =>
      obtain ⟨word, bounds⟩ := signedRange_of_fitsSigned fits
      apply Resends.element rfl
      refine bind_eq_ok_iff.mpr ⟨_, integerAt_int (by rwa [word]) path, ?_⟩
      rw [word]
      rfl
  | @uint width n fits small =>
      obtain ⟨word, bounds⟩ := unsignedRange_of_lt fits small
      apply Resends.element
      · rw [Piece.refusal?, ofLittleEndian_littleEndian, Nat.mod_eq_of_lt fits,
          if_neg (Nat.not_le.mpr small)]
      · refine bind_eq_ok_iff.mpr ⟨_, integerAt_int (by rwa [word]) path, ?_⟩
        rw [word, littleEndianInt_natCast fits]
        rfl
  | @large width n fits large =>
      apply Resends.of_some
      · rw [List.findSome?_singleton, Piece.refusal?, ofLittleEndian_littleEndian,
          Nat.mod_eq_of_lt fits, if_pos large]
      · rw [encodeBuiltin, integerAt_of_none (Value.asInt?_float_ofInt large)]
        rfl
  | float32 x =>
      apply Resends.element rfl
      rw [canonical_float32, ← x.narrow_widen_eq_quieted]
      rfl
  | float64 x => exact Resends.element rfl rfl
  | string fits =>
      apply Resends.element rfl
      exact bind_eq_ok_iff.mpr ⟨_, rfl, bind_eq_ok_iff.mpr ⟨_, countWord_of_lt fits path, rfl⟩⟩
  | @time sec nsec fitsSec fitsNsec =>
      obtain ⟨secWord, secBounds⟩ := @unsignedRange_of_lt .w32 sec fitsSec (by omega)
      obtain ⟨nsecWord, nsecBounds⟩ := @unsignedRange_of_lt .w32 nsec fitsNsec (by omega)
      have taken := stampAt_table (by rwa [secWord]) (by rwa [nsecWord]) path
      rw [secWord, nsecWord] at taken
      apply Resends.element rfl
      rw [← littleEndianInt_natCast fitsSec, ← littleEndianInt_natCast fitsNsec]
      exact bind_eq_ok_iff.mpr ⟨_, taken, rfl⟩
  | @duration sec nsec fitsSec fitsNsec =>
      obtain ⟨secWord, secBounds⟩ := @signedRange_of_fitsSigned .w32 sec fitsSec
      obtain ⟨nsecWord, nsecBounds⟩ := @signedRange_of_fitsSigned .w32 nsec fitsNsec
      have taken := stampAt_table (by rwa [secWord]) (by rwa [nsecWord]) path
      rw [secWord, nsecWord] at taken
      apply Resends.element rfl
      exact bind_eq_ok_iff.mpr ⟨_, taken, rfl⟩

end Builtins

/-! ## Messages -/

/-- The entries that a table was read into have the names of the fields. -/
theorem keys_of_pieces {fields : List Field} {path : String} {entries : Dict String Value}
    {pieces : List Piece} (parts : FieldsPieces fields path entries pieces) :
    Dict.keys entries = fields.map Field.name := by
  induction fields generalizing entries pieces with
  | nil =>
      rw [parts.1]
      rfl
  | cons field later ih =>
      rcases parts with ⟨entry, others, _, _, rfl, _, head, tail⟩
      rcases field with ⟨name, type, shape⟩
      rw [Dict.keys, List.map_cons, List.map_cons, head.1]
      exact congrArg (name :: ·) (ih tail)

mutual

/-- Elements of every type are written piece by piece. -/
theorem ElementType.resends : ∀ type : ElementType, type.NamesDistinct →
    ∀ (path : String) (value : Value) (pieces : List Piece), type.Pieces path value pieces →
      Resends (type.encode (some value) path) pieces
  | .builtin _, _, path, _, _, ⟨_, laid, same⟩ => by
      rw [same]
      exact laid.resends path
  | .message schema, distinct, path, value, pieces, parts =>
      schema.resends distinct path value pieces parts
termination_by structural type => type

theorem Schema.resends : ∀ schema : Schema, schema.NamesDistinct →
    ∀ (path : String) (value : Value) (pieces : List Piece), schema.Pieces path value pieces →
      Resends (schema.encodeAt (some value) path) pieces
  | ⟨name, fields, constants⟩, ⟨distinct, nested⟩, path, _, pieces, ⟨entries, table, parts⟩ => by
      have keys := keys_of_pieces parts
      have looked : ∀ entry ∈ entries, Dict.get? entries entry.1 = some entry.2 :=
        fun entry member => Dict.get?_of_mem (by rwa [keys]) member
      rw [table]
      simp only [Schema.encodeAt, Value.entries?, unknownKey?_of_keys_eq keys]
      exact resends_fields fields nested path entries pieces parts entries looked
termination_by structural schema => schema

/-- Fields are written piece by piece, from any table that has their entries. -/
theorem resends_fields : ∀ fields : List Field, AllNamesDistinct fields →
    ∀ (path : String) (entries : Dict String Value) (pieces : List Piece),
      FieldsPieces fields path entries pieces → ∀ table : Dict String Value,
        (∀ entry ∈ entries, Dict.get? table entry.1 = some entry.2) →
          Resends (encodeFields fields table path) pieces
  | [], _, _, _, _, ⟨_, empty⟩, _, _ => by
      rw [empty]
      exact Resends.of_none rfl ⟨_, rfl, rfl⟩
  | field :: later, ⟨distinct, nested⟩, path, _, _,
      ⟨entry, others, first, rest, sameEntries, same, head, tail⟩, table, looked => by
      subst sameEntries same
      -- The encoder looks every field up in the whole table, also in the recursion.
      have front := field.resends distinct path entry first head table
        (looked entry List.mem_cons_self)
      have back := resends_fields later nested path others rest tail table
        fun other member => looked other (List.mem_cons_of_mem _ member)
      exact front.append back
termination_by structural fields => fields

theorem Field.resends : ∀ field : Field, field.NamesDistinct →
    ∀ (path : String) (entry : String × Value) (pieces : List Piece),
      field.Pieces path entry pieces → ∀ table : Dict String Value,
        Dict.get? table entry.1 = some entry.2 → Resends (field.encode table path) pieces
  | ⟨name, type, shape⟩, distinct, path, _, pieces, ⟨sameName, parts⟩, table, looked => by
      rw [sameName] at looked
      change Resends (encodeShape type (fun value => type.encode value (joinPath path name)) shape
        (Dict.get? table name) (joinPath path name)) pieces
      rw [looked]
      exact parts.resends (type.resends distinct (joinPath path name)) (joinPath path name)
termination_by structural field => field

end

/-- A message that was read from pieces is written as the canonical pieces, unless
one of them is refused. -/
theorem Schema.encode_of_pieces {schema : Schema} (distinct : schema.NamesDistinct)
    {value : Value} {pieces : List Piece} (parts : schema.Pieces "" value pieces) :
    schema.encode value =
      match pieces.findSome? Piece.refusal? with
      | none => .ok (canonicalPayload pieces)
      | some e => .error e := by
  have resends := schema.resends distinct "" value pieces parts
  unfold Resends at resends
  rw [Schema.encode]
  cases refused : pieces.findSome? Piece.refusal? with
  | none =>
      rw [refused] at resends
      rcases resends with ⟨builder, wrote, same⟩
      rw [wrote]
      exact congrArg Except.ok same
  | some e =>
      rw [refused] at resends
      have failed : schema.encodeAt (some value) "" = .error e := resends
      rw [failed]
      rfl

end TopicBridge
