import TopicBridge.Proofs.Number.Word
import TopicBridge.Text.Utf8
import TopicBridge.Wire.Size

/-!
# The wire layout

Which bytes lay out which value of a type, said without reading or writing
anything.  Numbers are little-endian words, a string is its length and its UTF-8
bytes, a time stamp is two words, an array of any length is its count and its
items, an array of fixed length is its items alone, and a message is its fields
in order of declaration.

Every element of a type takes at least the least size of the type.  The types of
least size zero are the weightless ones, whose elements take no bytes at all;
an array of any length may hold only so many of those.
-/

namespace TopicBridge

open Message Number Text

/-- The bytes that lay out a builtin value. -/
inductive Message.Builtin.Layout : Builtin → Value → Bytes → Prop
  | bool (byte : UInt8) : Layout .bool (.bool (byte != 0)) [byte]
  | int {width : Width} {i : Int} (fits : FitsSigned width.bytes i) :
      Layout (.int width) (.int (Int64.ofInt i)) (littleEndianInt width.bytes i)
  | uint {width : Width} {n : Nat} (fits : n < 256 ^ width.bytes) (small : n < 2 ^ 63) :
      Layout (.uint width) (.int (Int64.ofInt n)) (littleEndian width.bytes n)
  /-- No script integer can hold the word. -/
  | large {width : Width} {n : Nat} (fits : n < 256 ^ width.bytes) (large : 2 ^ 63 ≤ n) :
      Layout (.uint width) (.float (Binary64.ofInt n)) (littleEndian width.bytes n)
  | float32 (x : Binary32) : Layout .float32 (.float x.widen) (littleEndian 4 x.bits.toNat)
  | float64 (x : Binary64) : Layout .float64 (.float x) (littleEndian 8 x.bits.toNat)
  | string {text : String} (fits : text.utf8ByteSize < 256 ^ 4) :
      Layout .string (.string text) (littleEndian 4 text.utf8ByteSize ++ encodeUtf8 text)
  | time {sec nsec : Nat} (fitsSec : sec < 256 ^ 4) (fitsNsec : nsec < 256 ^ 4) :
      Layout .time (.stamp sec nsec) (littleEndian 4 sec ++ littleEndian 4 nsec)
  | duration {sec nsec : Int} (fitsSec : FitsSigned 4 sec) (fitsNsec : FitsSigned 4 nsec) :
      Layout .duration (.stamp sec nsec) (littleEndianInt 4 sec ++ littleEndianInt 4 nsec)

/-- The bytes that lay out items one behind another. -/
inductive ItemsLayout (element : Value → Bytes → Prop) : List Value → Bytes → Prop
  | nil : ItemsLayout element [] []
  | cons {item : Value} {items : List Value} {first rest : Bytes} :
      element item first → ItemsLayout element items rest →
      ItemsLayout element (item :: items) (first ++ rest)

/-- The bytes that lay out the value of a field, given those of its elements. -/
inductive Message.Shape.Layout (element : Value → Bytes → Prop) (isWeightless : Bool) :
    Shape → Value → Bytes → Prop
  | single {value : Value} {bytes : Bytes} :
      element value bytes → Layout element isWeightless .single value bytes
  | sequence {items : List Value} {bytes : Bytes} (laid : ItemsLayout element items bytes)
      (counted : items.length < 256 ^ 4)
      (limited : isWeightless = true → items.length ≤ maxEmptyElements) :
      Layout element isWeightless .sequence (.array items)
        (littleEndian 4 items.length ++ bytes)
  | fixed {items : List Value} {bytes : Bytes} (laid : ItemsLayout element items bytes) :
      Layout element isWeightless (.fixed items.length) (.array items) bytes

mutual

/-- The elements take no bytes. -/
def ElementType.isWeightless : ElementType → Bool
  | .builtin _ => false
  | .message schema => schema.isWeightless
termination_by structural type => type

/-- The messages take no bytes. -/
def Schema.isWeightless : Schema → Bool
  | ⟨_, fields, _⟩ => areWeightless fields
termination_by structural schema => schema

/-- The fields take no bytes. -/
def areWeightless : List Field → Bool
  | [] => true
  | field :: rest => field.isWeightless && areWeightless rest
termination_by structural fields => fields

/-- The field takes no bytes.  The count of an array of any length does. -/
def Field.isWeightless : Field → Bool
  | ⟨_, type, .single⟩ => type.isWeightless
  | ⟨_, _, .sequence⟩ => false
  | ⟨_, type, .fixed length⟩ => length == 0 || type.isWeightless
termination_by structural field => field

end

mutual

/-- The bytes that lay out an element. -/
def ElementType.Layout : ElementType → Value → Bytes → Prop
  | .builtin b, value, bytes => b.Layout value bytes
  | .message schema, value, bytes => schema.Layout value bytes
termination_by structural type => type

/-- The bytes that lay out a message. -/
def Schema.Layout : Schema → Value → Bytes → Prop
  | ⟨_, fields, _⟩, value, bytes =>
      ∃ entries, value = .table entries ∧ FieldsLayout fields entries bytes
termination_by structural schema => schema

/-- The bytes that lay out fields one behind another. -/
def FieldsLayout : List Field → Dict String Value → Bytes → Prop
  | [], entries, bytes => entries = [] ∧ bytes = []
  | field :: later, entries, bytes => ∃ entry others first rest,
      entries = entry :: others ∧ bytes = first ++ rest ∧
        field.Layout entry first ∧ FieldsLayout later others rest
termination_by structural fields => fields

/-- The bytes that lay out a field, as an entry of a table. -/
def Field.Layout : Field → String × Value → Bytes → Prop
  | ⟨name, type, shape⟩, entry, bytes => entry.1 = name ∧
      shape.Layout (fun value bytes => type.Layout value bytes) type.isWeightless entry.2 bytes
termination_by structural field => field

end

/-! ## Least sizes -/

mutual

/-- How few bytes an element may take, however many that is. -/
def ElementType.leastBytes : ElementType → Nat
  | .builtin b => b.leastSize
  | .message schema => schema.leastBytes
termination_by structural type => type

/-- How few bytes a message may take. -/
def Schema.leastBytes : Schema → Nat
  | ⟨_, fields, _⟩ => leastBytesOf fields
termination_by structural schema => schema

/-- How few bytes fields may take together. -/
def leastBytesOf : List Field → Nat
  | [] => 0
  | field :: rest => field.leastBytes + leastBytesOf rest
termination_by structural fields => fields

/-- How few bytes a field may take. -/
def Field.leastBytes : Field → Nat
  | ⟨_, type, .single⟩ => type.leastBytes
  | ⟨_, _, .sequence⟩ => 4
  | ⟨_, type, .fixed length⟩ => length * type.leastBytes
termination_by structural field => field

end

theorem saturate_le (size : Nat) : saturate size ≤ size :=
  Nat.min_le_left _ _

@[simp]
theorem saturate_eq_zero_iff {size : Nat} : saturate size = 0 ↔ size = 0 := by
  unfold saturate maxSize
  omega

/-- Sizes may be saturated before they are added. -/
theorem saturate_add (size other : Nat) :
    saturate (saturate size + saturate other) = saturate (size + other) := by
  unfold saturate
  omega

theorem saturate_of_ge {size : Nat} (large : maxSize ≤ size) : saturate size = maxSize :=
  Nat.min_eq_right large

/-- A size may be saturated before it is multiplied. -/
theorem saturate_mul (count size : Nat) :
    saturate (count * saturate size) = saturate (count * size) := by
  by_cases small : size ≤ maxSize
  · have kept : saturate size = size := Nat.min_eq_left small
    rw [kept]
  · have large := Nat.le_of_not_le small
    rw [saturate_of_ge large]
    cases count with
    | zero => rw [Nat.zero_mul, Nat.zero_mul]
    | succ count =>
        have whole : maxSize ≤ (count + 1) * maxSize := Nat.le_mul_of_pos_left _ count.succ_pos
        rw [saturate_of_ge whole, saturate_of_ge (Nat.le_trans whole (Nat.mul_le_mul_left _ large))]

theorem Message.Builtin.leastSize_pos (builtin : Builtin) : 0 < builtin.leastSize := by
  cases builtin with
  | int width | uint width => cases width <;> decide
  | _ => decide

theorem Message.Builtin.saturate_leastSize (builtin : Builtin) :
    saturate builtin.leastSize = builtin.leastSize := by
  cases builtin with
  | int width | uint width => cases width <;> rfl
  | _ => rfl

mutual

/-- It makes no difference that sizes saturate on the way: the least size of a type is
its number of bytes, saturated once. -/
theorem ElementType.leastSize_eq : ∀ type : ElementType,
    type.leastSize = saturate type.leastBytes
  | .builtin b => b.saturate_leastSize.symm
  | .message schema => schema.leastSize_eq
termination_by structural type => type

theorem Schema.leastSize_eq : ∀ schema : Schema, schema.leastSize = saturate schema.leastBytes
  | ⟨_, fields, _⟩ => leastSizes_eq fields
termination_by structural schema => schema

theorem leastSizes_eq : ∀ fields : List Field, leastSizes fields = saturate (leastBytesOf fields)
  | [] => rfl
  | field :: rest => by
      rw [leastSizes, leastBytesOf, field.leastSize_eq, leastSizes_eq rest, saturate_add]
termination_by structural fields => fields

theorem Field.leastSize_eq : ∀ field : Field, field.leastSize = saturate field.leastBytes
  | ⟨_, type, .single⟩ => type.leastSize_eq
  | ⟨_, _, .sequence⟩ => rfl
  | ⟨_, type, .fixed length⟩ => by
      rw [Field.leastSize, Field.leastBytes, type.leastSize_eq, saturate_mul]
termination_by structural field => field

end

mutual

/-- The weightless types are those whose elements may take no bytes. -/
theorem ElementType.leastBytes_eq_zero_iff : ∀ type : ElementType,
    type.leastBytes = 0 ↔ type.isWeightless = true
  | .builtin b => by
      have positive := b.leastSize_pos
      simp only [ElementType.leastBytes, ElementType.isWeightless, Bool.false_eq_true, iff_false]
      omega
  | .message schema => schema.leastBytes_eq_zero_iff
termination_by structural type => type

theorem Schema.leastBytes_eq_zero_iff : ∀ schema : Schema,
    schema.leastBytes = 0 ↔ schema.isWeightless = true
  | ⟨_, fields, _⟩ => leastBytesOf_eq_zero_iff fields
termination_by structural schema => schema

theorem leastBytesOf_eq_zero_iff : ∀ fields : List Field,
    leastBytesOf fields = 0 ↔ areWeightless fields = true
  | [] => by simp [leastBytesOf, areWeightless]
  | field :: rest => by
      simp [leastBytesOf, areWeightless, field.leastBytes_eq_zero_iff,
        leastBytesOf_eq_zero_iff rest]
termination_by structural fields => fields

theorem Field.leastBytes_eq_zero_iff : ∀ field : Field,
    field.leastBytes = 0 ↔ field.isWeightless = true
  | ⟨_, type, .single⟩ => type.leastBytes_eq_zero_iff
  | ⟨_, _, .sequence⟩ => by simp [Field.leastBytes, Field.isWeightless]
  | ⟨_, type, .fixed length⟩ => by
      rw [Field.leastBytes, Nat.mul_eq_zero, type.leastBytes_eq_zero_iff]
      simp [Field.isWeightless]
termination_by structural field => field

end

theorem ElementType.leastSize_eq_zero_iff (type : ElementType) :
    type.leastSize = 0 ↔ type.isWeightless = true := by
  rw [type.leastSize_eq, saturate_eq_zero_iff, type.leastBytes_eq_zero_iff]

theorem Message.Builtin.Layout.leastSize_le {builtin : Builtin} {value : Value} {bytes : Bytes}
    (laid : builtin.Layout value bytes) : builtin.leastSize ≤ bytes.length := by
  cases laid <;> simp [Builtin.leastSize]

/-- Items take at least their number times what one takes. -/
theorem ItemsLayout.le_length {element : Value → Bytes → Prop} {least : Nat}
    (each : ∀ value bytes, element value bytes → least ≤ bytes.length) {items : List Value}
    {bytes : Bytes} (laid : ItemsLayout element items bytes) :
    items.length * least ≤ bytes.length := by
  induction laid with
  | nil => simp
  | @cons item items first rest head _ ih =>
      have one := each item first head
      rw [List.length_cons, List.length_append, Nat.succ_mul]
      omega

mutual

/-- An element takes no fewer bytes than its type may take. -/
theorem ElementType.leastBytes_le : ∀ (type : ElementType) (value : Value) (bytes : Bytes),
    type.Layout value bytes → type.leastBytes ≤ bytes.length
  | .builtin _, _, _, laid => Builtin.Layout.leastSize_le laid
  | .message schema, value, bytes, laid => schema.leastBytes_le value bytes laid
termination_by structural type => type

theorem Schema.leastBytes_le : ∀ (schema : Schema) (value : Value) (bytes : Bytes),
    schema.Layout value bytes → schema.leastBytes ≤ bytes.length
  | ⟨_, fields, _⟩, _, bytes, ⟨entries, _, laid⟩ => leastBytesOf_le fields entries bytes laid
termination_by structural schema => schema

theorem leastBytesOf_le : ∀ (fields : List Field) (entries : Dict String Value) (bytes : Bytes),
    FieldsLayout fields entries bytes → leastBytesOf fields ≤ bytes.length
  | [], _, _, _ => Nat.zero_le _
  | field :: later, _, _, ⟨entry, others, first, rest, _, same, head, tail⟩ => by
      have one := field.leastBytes_le entry first head
      have more := leastBytesOf_le later others rest tail
      rw [same, List.length_append, leastBytesOf]
      exact Nat.add_le_add one more
termination_by structural fields => fields

theorem Field.leastBytes_le : ∀ (field : Field) (entry : String × Value) (bytes : Bytes),
    field.Layout entry bytes → field.leastBytes ≤ bytes.length
  | ⟨_, type, .single⟩, entry, bytes, ⟨_, .single laid⟩ =>
      type.leastBytes_le entry.2 bytes laid
  | ⟨_, _, .sequence⟩, (_, _), _, ⟨_, laid⟩ => by
      cases laid
      simp [Field.leastBytes]
  | ⟨_, type, .fixed _⟩, (_, _), _, ⟨_, laid⟩ => by
      cases laid with
      | fixed laid => exact laid.le_length type.leastBytes_le
termination_by structural field => field

end

/-- An element takes at least the least size of its type. -/
theorem ElementType.leastSize_le (type : ElementType) (value : Value) (bytes : Bytes)
    (laid : type.Layout value bytes) : type.leastSize ≤ bytes.length := by
  rw [type.leastSize_eq]
  exact Nat.le_trans (saturate_le _) (type.leastBytes_le value bytes laid)

theorem ItemsLayout.eq_nil {element : Value → Bytes → Prop}
    (each : ∀ value bytes, element value bytes → bytes = []) {items : List Value}
    {bytes : Bytes} (laid : ItemsLayout element items bytes) : bytes = [] := by
  induction laid with
  | nil => rfl
  | @cons item items first rest head _ ih => rw [each item first head, ih, List.nil_append]

mutual

/-- An element of a weightless type takes no bytes. -/
theorem ElementType.eq_nil_of_isWeightless : ∀ (type : ElementType),
    type.isWeightless = true → ∀ (value : Value) (bytes : Bytes), type.Layout value bytes →
      bytes = []
  | .message schema, weightless, value, bytes, laid =>
      schema.eq_nil_of_isWeightless weightless value bytes laid
termination_by structural type => type

theorem Schema.eq_nil_of_isWeightless : ∀ (schema : Schema),
    schema.isWeightless = true → ∀ (value : Value) (bytes : Bytes), schema.Layout value bytes →
      bytes = []
  | ⟨_, fields, _⟩, weightless, _, bytes, ⟨entries, _, laid⟩ =>
      eq_nil_of_areWeightless fields weightless entries bytes laid
termination_by structural schema => schema

theorem eq_nil_of_areWeightless : ∀ (fields : List Field),
    areWeightless fields = true → ∀ (entries : Dict String Value) (bytes : Bytes),
      FieldsLayout fields entries bytes → bytes = []
  | [], _, _, _, ⟨_, empty⟩ => empty
  | field :: later, weightless, _, _, ⟨entry, others, first, rest, _, same, head, tail⟩ => by
      obtain ⟨front, back⟩ := Bool.and_eq_true_iff.mp weightless
      rw [same, field.eq_nil_of_isWeightless front entry first head,
        eq_nil_of_areWeightless later back others rest tail, List.nil_append]
termination_by structural fields => fields

theorem Field.eq_nil_of_isWeightless : ∀ (field : Field),
    field.isWeightless = true → ∀ (entry : String × Value) (bytes : Bytes),
      field.Layout entry bytes → bytes = []
  | ⟨_, type, .single⟩, weightless, entry, bytes, ⟨_, .single laid⟩ =>
      type.eq_nil_of_isWeightless weightless entry.2 bytes laid
  | ⟨_, type, .fixed _⟩, weightless, (_, _), _, ⟨_, laid⟩ => by
      cases laid with
      | fixed laid =>
          rcases Bool.or_eq_true_iff.mp weightless with none | weightless
          · cases laid with
            | nil => rfl
            | cons => simp at none
          · exact laid.eq_nil (type.eq_nil_of_isWeightless weightless)
termination_by structural field => field

end

end TopicBridge
