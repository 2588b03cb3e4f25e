import TopicBridge.Proofs.Number.Return
import TopicBridge.Proofs.Wire.Layout
import TopicBridge.Wire.Encode

/-!
# The pieces of a payload

A payload falls into pieces: the builtin elements, each of which belongs to the
field at some path, and the counts of arrays.  Two pieces can be read as the same
value.  Any byte but zero is true, and a signaling NaN is read as the quiet one.
The canonical piece is the one that writing gives, and it can take the place of
any piece that is read as the same.

An unsigned word from `2 ^ 63` on is read as the nearest floating-point number.
It has no integer to be written from.
-/

namespace TopicBridge

open Message Number Text Wire

namespace Wire

/-- A piece of a payload. -/
inductive Piece where
  /-- The count of an array. -/
  | count (items : Nat)
  /-- A builtin element of the field at a path. -/
  | element (path : String) (builtin : Builtin) (bytes : Bytes)

end Wire

/-- The bytes that the value of a builtin element is written as.  They are the
bytes it was read from, but for a truth value above one and a signaling NaN. -/
def Message.Builtin.canonical : Builtin → Bytes → Bytes
  | .bool, [byte] => if 1 < byte then [1] else [byte]
  | .float32, bytes =>
      let x : Binary32 := ⟨UInt32.ofNat (ofLittleEndian bytes)⟩
      if x.isSignaling then littleEndian 4 x.quieted.bits.toNat else bytes
  | _, bytes => bytes

namespace Wire.Piece

/-- The bytes of a piece. -/
def bytes : Piece → Bytes
  | .count items => littleEndian 4 items
  | .element _ _ bytes => bytes

/-- The piece that is written for the value of a piece. -/
def canonical : Piece → Piece
  | .count items => .count items
  | .element path builtin bytes => .element path builtin (builtin.canonical bytes)

/-- Why the value of a piece cannot be written: no script integer holds an
unsigned word from `2 ^ 63` on. -/
def refusal? : Piece → Option WireError
  | .element path (.uint _) bytes =>
      if 2 ^ 63 ≤ ofLittleEndian bytes then some (.typeMismatch path .integer) else none
  | _ => none

end Wire.Piece

/-- The payload that pieces make up. -/
def Wire.payload (pieces : List Piece) : Bytes :=
  pieces.flatMap Piece.bytes

/-! ## What falls into which pieces -/

/-- The pieces of items one behind another. -/
inductive ItemsPieces (element : Value → List Piece → Prop) : List Value → List Piece → Prop
  | nil : ItemsPieces element [] []
  | cons {item : Value} {items : List Value} {first rest : List Piece} :
      element item first → ItemsPieces element items rest →
      ItemsPieces element (item :: items) (first ++ rest)

/-- The pieces of the value of a field, given those of its elements. -/
inductive Message.Shape.Pieces (element : Value → List Piece → Prop) (isWeightless : Bool) :
    Shape → Value → List Piece → Prop
  | single {value : Value} {pieces : List Piece} :
      element value pieces → Pieces element isWeightless .single value pieces
  | sequence {items : List Value} {pieces : List Piece} (split : ItemsPieces element items pieces)
      (counted : items.length < 256 ^ 4)
      (limited : isWeightless = true → items.length ≤ maxEmptyElements) :
      Pieces element isWeightless .sequence (.array items) (.count items.length :: pieces)
  | fixed {items : List Value} {pieces : List Piece} (split : ItemsPieces element items pieces) :
      Pieces element isWeightless (.fixed items.length) (.array items) pieces

mutual

/-- The pieces of an element of the field at a path. -/
def ElementType.Pieces : ElementType → String → Value → List Piece → Prop
  | .builtin b, path, value, pieces =>
      ∃ bytes, b.Layout value bytes ∧ pieces = [.element path b bytes]
  | .message schema, path, value, pieces => schema.Pieces path value pieces
termination_by structural type => type

/-- The pieces of a message that stands at a path. -/
def Schema.Pieces : Schema → String → Value → List Piece → Prop
  | ⟨_, fields, _⟩, path, value, pieces =>
      ∃ entries, value = .table entries ∧ FieldsPieces fields path entries pieces
termination_by structural schema => schema

/-- The pieces of fields one behind another. -/
def FieldsPieces : List Field → String → Dict String Value → List Piece → Prop
  | [], _, entries, pieces => entries = [] ∧ pieces = []
  | field :: later, path, entries, pieces => ∃ entry others first rest,
      entries = entry :: others ∧ pieces = first ++ rest ∧
        field.Pieces path entry first ∧ FieldsPieces later path others rest
termination_by structural fields => fields

/-- The pieces of a field, as an entry of a table. -/
def Field.Pieces : Field → String → String × Value → List Piece → Prop
  | ⟨name, type, shape⟩, path, entry, pieces => entry.1 = name ∧
      shape.Pieces (fun value pieces => type.Pieces (joinPath path name) value pieces)
        type.isWeightless entry.2 pieces
termination_by structural field => field

end

/-! ## Payloads -/

namespace Wire

@[simp]
theorem payload_append (pieces others : List Piece) :
    payload (pieces ++ others) = payload pieces ++ payload others :=
  List.flatMap_append

end Wire

/-- What is laid out item by item falls into pieces item by item. -/
theorem ItemsLayout.exists_pieces {layout : Value → Bytes → Prop}
    {element : Value → List Piece → Prop}
    (each : ∀ value bytes, layout value bytes → ∃ pieces, element value pieces ∧
      payload pieces = bytes)
    {items : List Value} {bytes : Bytes} (laid : ItemsLayout layout items bytes) :
    ∃ pieces, ItemsPieces element items pieces ∧ payload pieces = bytes := by
  induction laid with
  | nil => exact ⟨[], ItemsPieces.nil, rfl⟩
  | cons head _ ih =>
      rcases each _ _ head with ⟨first, split, rfl⟩
      rcases ih with ⟨rest, splitRest, rfl⟩
      exact ⟨first ++ rest, ItemsPieces.cons split splitRest, payload_append first rest⟩

theorem Message.Shape.Layout.exists_pieces {layout : Value → Bytes → Prop}
    {element : Value → List Piece → Prop} {isWeightless : Bool}
    (each : ∀ value bytes, layout value bytes → ∃ pieces, element value pieces ∧
      payload pieces = bytes)
    {shape : Shape} {value : Value} {bytes : Bytes}
    (laid : shape.Layout layout isWeightless value bytes) :
    ∃ pieces, shape.Pieces element isWeightless value pieces ∧ payload pieces = bytes := by
  cases laid with
  | single laid =>
      rcases each _ _ laid with ⟨pieces, split, same⟩
      exact ⟨pieces, Shape.Pieces.single split, same⟩
  | sequence laid counted limited =>
      rcases laid.exists_pieces each with ⟨pieces, split, rfl⟩
      exact ⟨_, Shape.Pieces.sequence split counted limited, rfl⟩
  | fixed laid =>
      rcases laid.exists_pieces each with ⟨pieces, split, same⟩
      exact ⟨pieces, Shape.Pieces.fixed split, same⟩

mutual

/-- What is laid out falls into pieces. -/
theorem ElementType.exists_pieces : ∀ (type : ElementType) (path : String) (value : Value)
    (bytes : Bytes), type.Layout value bytes →
      ∃ pieces, type.Pieces path value pieces ∧ payload pieces = bytes
  | .builtin _, _, _, bytes, laid => ⟨_, ⟨bytes, laid, rfl⟩, List.append_nil bytes⟩
  | .message schema, path, value, bytes, laid => schema.exists_pieces path value bytes laid
termination_by structural type => type

theorem Schema.exists_pieces : ∀ (schema : Schema) (path : String) (value : Value)
    (bytes : Bytes), schema.Layout value bytes →
      ∃ pieces, schema.Pieces path value pieces ∧ payload pieces = bytes
  | ⟨_, fields, _⟩, path, _, bytes, ⟨entries, table, laid⟩ => by
      rcases exists_pieces_fields fields path entries bytes laid with ⟨pieces, split, same⟩
      exact ⟨pieces, ⟨entries, table, split⟩, same⟩
termination_by structural schema => schema

theorem exists_pieces_fields : ∀ (fields : List Field) (path : String)
    (entries : Dict String Value) (bytes : Bytes), FieldsLayout fields entries bytes →
      ∃ pieces, FieldsPieces fields path entries pieces ∧ payload pieces = bytes
  | [], _, _, _, ⟨bare, empty⟩ => ⟨[], ⟨bare, rfl⟩, empty.symm⟩
  | field :: later, path, _, _, ⟨entry, others, first, rest, sameEntries, same, head, tail⟩ => by
      rcases field.exists_pieces path entry first head with ⟨front, split, rfl⟩
      rcases exists_pieces_fields later path others rest tail with ⟨back, splitRest, rfl⟩
      refine ⟨front ++ back, ⟨entry, others, front, back, sameEntries, rfl, split, splitRest⟩, ?_⟩
      rw [payload_append, same]
termination_by structural fields => fields

theorem Field.exists_pieces : ∀ (field : Field) (path : String) (entry : String × Value)
    (bytes : Bytes), field.Layout entry bytes →
      ∃ pieces, field.Pieces path entry pieces ∧ payload pieces = bytes
  | ⟨name, type, _⟩, path, _, _, ⟨sameName, laid⟩ => by
      rcases laid.exists_pieces (type.exists_pieces (joinPath path name)) with ⟨pieces, split, same⟩
      exact ⟨pieces, ⟨sameName, split⟩, same⟩
termination_by structural field => field

end

/-! ## Canonical pieces -/

/-- A byte that is a truth value in canonical form. -/
theorem canonical_bool (byte : UInt8) :
    Builtin.bool.canonical [byte] = [if byte != 0 then 1 else 0] := by
  rw [Builtin.canonical]
  split
  · rename_i above
    have nonzero : byte ≠ 0 := by
      rintro rfl
      cases above
    rw [if_pos (by simpa using nonzero)]
  · rename_i above
    by_cases zero : byte = 0
    · rw [zero]
      rfl
    · have low : byte.toNat ≤ 1 := Nat.le_of_not_lt above
      have positive : byte.toNat ≠ 0 := fun none => zero (UInt8.toNat_inj.mp none)
      have one : byte = 1 := UInt8.toNat_inj.mp (by change byte.toNat = 1; omega)
      rw [one]
      rfl

/-- A single-precision number in canonical form. -/
theorem canonical_float32 (x : Binary32) :
    Builtin.float32.canonical (littleEndian 4 x.bits.toNat) =
      littleEndian 4 x.quieted.bits.toNat := by
  have bound : x.bits.toNat < 256 ^ 4 := x.bits.toNat_lt
  have same : UInt32.ofNat (ofLittleEndian (littleEndian 4 x.bits.toNat)) = x.bits := by
    rw [ofLittleEndian_littleEndian, Nat.mod_eq_of_lt bound, UInt32.ofNat_toNat]
  simp only [Builtin.canonical, same]
  split
  · rfl
  · rename_i quiet
    rw [Binary32.quieted_of_quiet (Bool.eq_false_iff.mpr quiet)]

/-- The canonical bytes lay out the same builtin value. -/
theorem Message.Builtin.Layout.canonical {builtin : Builtin} {value : Value} {bytes : Bytes}
    (laid : builtin.Layout value bytes) : builtin.Layout value (builtin.canonical bytes) := by
  cases laid with
  | bool byte =>
      rw [canonical_bool]
      cases truth : byte != 0 with
      | false => exact Builtin.Layout.bool 0
      | true => exact Builtin.Layout.bool 1
  | float32 x =>
      rw [canonical_float32, ← x.widen_quieted]
      exact Builtin.Layout.float32 x.quieted
  | int fits => exact Builtin.Layout.int fits
  | uint fits small => exact Builtin.Layout.uint fits small
  | large fits large => exact Builtin.Layout.large fits large
  | float64 x => exact Builtin.Layout.float64 x
  | string fits => exact Builtin.Layout.string fits
  | time fitsSec fitsNsec => exact Builtin.Layout.time fitsSec fitsNsec
  | duration fitsSec fitsNsec => exact Builtin.Layout.duration fitsSec fitsNsec

/-- The payload of the canonical pieces. -/
def Wire.canonicalPayload (pieces : List Piece) : Bytes :=
  payload (pieces.map Piece.canonical)

@[simp]
theorem Wire.canonicalPayload_singleton (piece : Piece) :
    canonicalPayload [piece] = piece.canonical.bytes :=
  List.append_nil _

@[simp]
theorem Wire.canonicalPayload_append (pieces others : List Piece) :
    canonicalPayload (pieces ++ others) = canonicalPayload pieces ++ canonicalPayload others := by
  rw [canonicalPayload, List.map_append, payload_append]
  rfl

theorem ItemsPieces.layout_canonical {element : Value → List Piece → Prop}
    {layout : Value → Bytes → Prop}
    (each : ∀ value pieces, element value pieces → layout value (canonicalPayload pieces))
    {items : List Value} {pieces : List Piece} (split : ItemsPieces element items pieces) :
    ItemsLayout layout items (canonicalPayload pieces) := by
  induction split with
  | nil => exact ItemsLayout.nil
  | cons head _ ih =>
      rw [canonicalPayload_append]
      exact ItemsLayout.cons (each _ _ head) ih

theorem Message.Shape.Pieces.layout_canonical {element : Value → List Piece → Prop}
    {layout : Value → Bytes → Prop} {isWeightless : Bool}
    (each : ∀ value pieces, element value pieces → layout value (canonicalPayload pieces))
    {shape : Shape} {value : Value} {pieces : List Piece}
    (split : shape.Pieces element isWeightless value pieces) :
    shape.Layout layout isWeightless value (canonicalPayload pieces) := by
  cases split with
  | single split => exact Shape.Layout.single (each _ _ split)
  | sequence split counted limited =>
      exact Shape.Layout.sequence (split.layout_canonical each) counted limited
  | fixed split => exact Shape.Layout.fixed (split.layout_canonical each)

mutual

/-- The canonical pieces lay out the same value. -/
theorem ElementType.layout_canonical : ∀ (type : ElementType) (path : String) (value : Value)
    (pieces : List Piece), type.Pieces path value pieces →
      type.Layout value (canonicalPayload pieces)
  | .builtin b, path, value, _, ⟨bytes, laid, same⟩ => by
      rw [same, canonicalPayload_singleton]
      exact laid.canonical
  | .message schema, path, value, pieces, split => schema.layout_canonical path value pieces split
termination_by structural type => type

theorem Schema.layout_canonical : ∀ (schema : Schema) (path : String) (value : Value)
    (pieces : List Piece), schema.Pieces path value pieces →
      schema.Layout value (canonicalPayload pieces)
  | ⟨_, fields, _⟩, path, _, pieces, ⟨entries, table, split⟩ =>
      ⟨entries, table, layout_canonical_fields fields path entries pieces split⟩
termination_by structural schema => schema

theorem layout_canonical_fields : ∀ (fields : List Field) (path : String)
    (entries : Dict String Value) (pieces : List Piece), FieldsPieces fields path entries pieces →
      FieldsLayout fields entries (canonicalPayload pieces)
  | [], _, _, _, ⟨bare, empty⟩ => by
      rw [empty]
      exact ⟨bare, rfl⟩
  | field :: later, path, _, _, ⟨entry, others, first, rest, sameEntries, same, head, tail⟩ => by
      refine ⟨entry, others, canonicalPayload first, canonicalPayload rest, sameEntries, ?_,
        field.layout_canonical path entry first head,
        layout_canonical_fields later path others rest tail⟩
      rw [same, canonicalPayload_append]
termination_by structural fields => fields

theorem Field.layout_canonical : ∀ (field : Field) (path : String) (entry : String × Value)
    (pieces : List Piece), field.Pieces path entry pieces →
      field.Layout entry (canonicalPayload pieces)
  | ⟨name, type, _⟩, path, _, _, ⟨sameName, split⟩ =>
      ⟨sameName, split.layout_canonical (type.layout_canonical (joinPath path name))⟩
termination_by structural field => field

end

end TopicBridge
