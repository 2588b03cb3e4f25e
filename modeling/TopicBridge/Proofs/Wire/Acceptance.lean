import TopicBridge.Proofs.Wire.Reader
import TopicBridge.Wire.Decode

/-!
# What the decoder accepts

The decoder is a faithful reader, so it accepts exactly the wire layout.  It
checks the count of an array against the rest of the payload before it reads any
element, which changes nothing about what it accepts.  It also looks whether
enough bytes are left before each primitive read, and no primitive read would
ever run over the end of the payload.
-/

namespace TopicBridge

open Message Number Text Wire

/-! ## The decoder as a reader -/

/-- The reader that the decoder is. -/
def Reader.checked : Reader WireError where
  builtin := decodeBuiltin
  count := takeWord 4
  check name type := checkCount name type.leastSize
  trailing := .trailingBytes

theorem decodeItemsAfter_eq (element : Bytes → Except WireError (Value × Bytes))
    (reversed : List Value) (count : Nat) (input : Bytes) :
    decodeItemsAfter element reversed count input = (do
      let (items, rest) ← readItems element count input
      return (reversed.reverse ++ items, rest)) := by
  induction count generalizing reversed input with
  | zero =>
      change Except.ok (reversed.reverse, input) = Except.ok (reversed.reverse ++ [], input)
      rw [List.append_nil]
  | succ count ih =>
      rw [decodeItemsAfter, readItems]
      cases element input with
      | error e => rfl
      | ok taken =>
          obtain ⟨item, rest⟩ := taken
          change decodeItemsAfter element (item :: reversed) count rest =
            (readItems element count rest >>= fun taken => pure (item :: taken.1, taken.2)) >>=
              fun taken => pure (reversed.reverse ++ taken.1, taken.2)
          rw [ih, List.reverse_cons]
          cases readItems element count rest with
          | error e => rfl
          | ok read =>
              change Except.ok ((reversed.reverse ++ [item]) ++ read.1, read.2) =
                Except.ok (reversed.reverse ++ item :: read.1, read.2)
              rw [List.append_assoc, List.singleton_append]

theorem decodeItems_eq (element : Bytes → Except WireError (Value × Bytes)) (count : Nat)
    (input : Bytes) :
    decodeItems element count input = (do
      let (items, rest) ← readItems element count input
      return (.array items, rest)) := by
  rw [decodeItems, decodeItemsAfter_eq]
  cases readItems element count input <;> rfl

theorem decodeShape_eq (name : String) (type : ElementType)
    (element : Bytes → Except WireError (Value × Bytes)) (shape : Shape) (input : Bytes) :
    decodeShape name type element shape input =
      Reader.checked.shape name type element shape input := by
  cases shape with
  | single => rfl
  | sequence => simp only [decodeShape, Reader.shape, Reader.checked, decodeItems_eq]
  | fixed length => simp only [decodeShape, Reader.shape, decodeItems_eq]

mutual

theorem ElementType.decode_eq_readBy : ∀ (type : ElementType) (input : Bytes),
    type.decode input = type.readBy .checked input
  | .builtin _, _ => rfl
  | .message schema, input => schema.decodeFrom_eq_readFrom input
termination_by structural type => type

theorem Schema.decodeFrom_eq_readFrom : ∀ (schema : Schema) (input : Bytes),
    schema.decodeFrom input = schema.readFrom .checked input
  | ⟨_, fields, _⟩, input => by
      rw [Schema.decodeFrom, Schema.readFrom, decodeFields_eq_readFields fields input]
termination_by structural schema => schema

theorem decodeFields_eq_readFields : ∀ (fields : List Field) (input : Bytes),
    decodeFields fields input = readFields .checked fields input
  | [], _ => rfl
  | field :: later, input => by
      simp only [decodeFields, readFields, field.decode_eq_readBy input,
        decodeFields_eq_readFields later]
termination_by structural fields => fields

theorem Field.decode_eq_readBy : ∀ (field : Field) (input : Bytes),
    field.decode input = field.readBy .checked input
  | ⟨name, type, shape⟩, input => by
      have same : (fun input => type.decode input) = fun input => type.readBy .checked input :=
        funext type.decode_eq_readBy
      rw [Field.decode, Field.readBy, decodeShape_eq, same]
termination_by structural field => field

end

/-- Decoding is reading by the checked reader. -/
theorem Schema.decode_eq_readBy (schema : Schema) (payload : Bytes) :
    schema.decode payload = schema.readBy .checked payload := by
  rw [Schema.decode, Schema.readBy, schema.decodeFrom_eq_readFrom]
  rfl

/-! ## The decoder is faithful -/

theorem take_of_le {count : Nat} {input : Bytes} (room : count ≤ input.length) :
    take count input = .ok (input.take count, input.drop count) := by
  rw [take, if_neg (by rw [List.length_take]; omega)]

theorem take_of_lt {count : Nat} {input : Bytes} (short : input.length < count) :
    take count input = .error .unexpectedEnd := by
  rw [take, if_pos (by rw [List.length_take]; omega)]

theorem take_reads (count : Nat) :
    Reads (take count) fun taken bytes => taken = bytes ∧ bytes.length = count := by
  intro input taken rest
  constructor
  · intro read
    by_cases room : count ≤ input.length
    · rw [take_of_le room] at read
      cases read
      exact ⟨_, ⟨rfl, List.length_take_of_le room⟩, (List.take_append_drop count input).symm⟩
    · rw [take_of_lt (Nat.lt_of_not_le room)] at read
      cases read
  · rintro ⟨bytes, ⟨rfl, rfl⟩, rfl⟩
    rw [take_of_le (by simp)]
    simp

theorem takeWord_reads (count : Nat) :
    Reads (takeWord count) fun n bytes => n < 256 ^ count ∧ bytes = littleEndian count n := by
  refine ((take_reads count).map ofLittleEndian).congr fun n bytes => ?_
  rw [← ofLittleEndian_eq_iff]
  constructor
  · rintro ⟨_, ⟨rfl, counted⟩, rfl⟩
    exact ⟨counted, rfl⟩
  · rintro ⟨counted, rfl⟩
    exact ⟨bytes, ⟨rfl, counted⟩, rfl⟩

theorem takeInt_reads (count : Nat) :
    Reads (takeInt count) fun i bytes => FitsSigned count i ∧ bytes = littleEndianInt count i := by
  refine ((take_reads count).map ofLittleEndianInt).congr fun i bytes => ?_
  rw [← ofLittleEndianInt_eq_iff]
  constructor
  · rintro ⟨_, ⟨rfl, counted⟩, rfl⟩
    exact ⟨counted, rfl⟩
  · rintro ⟨counted, rfl⟩
    exact ⟨bytes, ⟨rfl, counted⟩, rfl⟩

/-- Read a text of a known size. -/
def takeText (count : Nat) (input : Bytes) : Except WireError (Value × Bytes) := do
  let (bytes, rest) ← take count input
  match decodeUtf8? bytes with
  | none => .error .invalidText
  | some text => return (.string text, rest)

theorem takeText_reads (count : Nat) :
    Reads (takeText count) fun value bytes => ∃ text, value = .string text ∧
      bytes = encodeUtf8 text ∧ text.utf8ByteSize = count := by
  intro input value rest
  rw [takeText, bind_eq_ok_iff]
  constructor
  · rintro ⟨⟨bytes, left⟩, taken, read⟩
    obtain ⟨_, ⟨rfl, counted⟩, split⟩ := (take_reads count input bytes left).mp taken
    cases spelled : decodeUtf8? bytes with
    | none => simp [spelled] at read
    | some text =>
        simp only [spelled] at read
        cases read
        have same := decodeUtf8?_eq_some_iff.mp spelled
        exact ⟨bytes, ⟨text, rfl, same, by rw [← counted, same, length_encodeUtf8]⟩, split⟩
  · rintro ⟨_, ⟨text, rfl, rfl, counted⟩, split⟩
    refine ⟨(encodeUtf8 text, rest), (take_reads count input _ _).mpr
      ⟨_, ⟨rfl, by rw [length_encodeUtf8, counted]⟩, split⟩, ?_⟩
    simp [decodeUtf8?_eq_some_iff.mpr rfl, pure, Except.pure]

theorem bne_zero_eq (byte : UInt8) : (byte != 0) = (byte.toNat != 0) := by
  have same : byte = 0 ↔ byte.toNat = 0 := UInt8.toNat_inj.symm
  rw [Bool.eq_iff_iff, bne_iff_ne, bne_iff_ne, ne_eq, ne_eq, same]

/-- The decoder reads exactly the layout of every builtin type. -/
theorem decodeBuiltin_reads (builtin : Builtin) : Reads (decodeBuiltin builtin) builtin.Layout := by
  cases builtin with
  | bool =>
      refine ((takeWord_reads 1).map fun n => Value.bool (n != 0)).congr fun value bytes => ?_
      constructor
      · rintro ⟨n, ⟨fits, rfl⟩, rfl⟩
        have same : (UInt8.ofNat n).toNat = n := UInt8.toNat_ofNat_of_lt' fits
        have laid := Builtin.Layout.bool (UInt8.ofNat n)
        rw [bne_zero_eq, same] at laid
        exact laid
      · rintro ⟨byte⟩
        refine ⟨byte.toNat, ⟨byte.toNat_lt, ?_⟩, by rw [bne_zero_eq]⟩
        rw [littleEndian, littleEndian, UInt8.ofNat_toNat]
  | int width =>
      refine ((takeInt_reads width.bytes).map fun i => Value.int (Int64.ofInt i)).congr
        fun value bytes => ?_
      constructor
      · rintro ⟨i, ⟨fits, rfl⟩, rfl⟩
        exact Builtin.Layout.int fits
      · rintro ⟨⟩
        exact ⟨_, ⟨by assumption, rfl⟩, rfl⟩
  | uint width =>
      refine ((takeWord_reads width.bytes).map ofUnsigned).congr fun value bytes => ?_
      constructor
      · rintro ⟨n, ⟨fits, rfl⟩, rfl⟩
        by_cases small : n < 2 ^ 63
        · rw [ofUnsigned, if_pos small]
          exact Builtin.Layout.uint fits small
        · rw [ofUnsigned, if_neg small]
          exact Builtin.Layout.large fits (Nat.le_of_not_lt small)
      · intro laid
        cases laid with
        | uint fits small => exact ⟨_, ⟨fits, rfl⟩, (if_pos small).symm⟩
        | large fits large => exact ⟨_, ⟨fits, rfl⟩, (if_neg (Nat.not_lt.mpr large)).symm⟩
  | float32 =>
      refine ((takeWord_reads 4).map fun n =>
        Value.float (Binary32.widen ⟨UInt32.ofNat n⟩)).congr fun value bytes => ?_
      constructor
      · rintro ⟨n, ⟨fits, rfl⟩, rfl⟩
        have same : (UInt32.ofNat n).toNat = n := UInt32.toNat_ofNat_of_lt' fits
        have laid := Builtin.Layout.float32 ⟨UInt32.ofNat n⟩
        rw [same] at laid
        exact laid
      · intro laid
        cases laid with
        | float32 x =>
            exact ⟨x.bits.toNat, ⟨x.bits.toNat_lt, rfl⟩, by rw [UInt32.ofNat_toNat]⟩
  | float64 =>
      refine ((takeWord_reads 8).map fun n => Value.float ⟨UInt64.ofNat n⟩).congr
        fun value bytes => ?_
      constructor
      · rintro ⟨n, ⟨fits, rfl⟩, rfl⟩
        have same : (UInt64.ofNat n).toNat = n := UInt64.toNat_ofNat_of_lt' fits
        have laid := Builtin.Layout.float64 ⟨UInt64.ofNat n⟩
        rw [same] at laid
        exact laid
      · intro laid
        cases laid with
        | float64 x =>
            exact ⟨x.bits.toNat, ⟨x.bits.toNat_lt, rfl⟩, by rw [UInt64.ofNat_toNat]⟩
  | string =>
      refine ((takeWord_reads 4).bind takeText_reads).congr fun value bytes => ?_
      constructor
      · rintro ⟨_, _, _, ⟨fits, rfl⟩, ⟨text, rfl, rfl, rfl⟩, rfl⟩
        exact Builtin.Layout.string fits
      · rintro ⟨⟩
        exact ⟨_, _, _, ⟨by assumption, rfl⟩, ⟨_, rfl, rfl, rfl⟩, rfl⟩
  | time =>
      refine ((takeWord_reads 4).bind fun sec => (takeWord_reads 4).map fun nsec =>
        Value.stamp sec nsec).congr fun value bytes => ?_
      constructor
      · rintro ⟨sec, _, _, ⟨fitsSec, rfl⟩, ⟨nsec, ⟨fitsNsec, rfl⟩, rfl⟩, rfl⟩
        exact Builtin.Layout.time fitsSec fitsNsec
      · rintro ⟨⟩
        exact ⟨_, _, _, ⟨by assumption, rfl⟩, ⟨_, ⟨by assumption, rfl⟩, rfl⟩, rfl⟩
  | duration =>
      refine ((takeInt_reads 4).bind fun sec => (takeInt_reads 4).map fun nsec =>
        Value.stamp sec nsec).congr fun value bytes => ?_
      constructor
      · rintro ⟨sec, _, _, ⟨fitsSec, rfl⟩, ⟨nsec, ⟨fitsNsec, rfl⟩, rfl⟩, rfl⟩
        exact Builtin.Layout.duration fitsSec fitsNsec
      · rintro ⟨⟩
        exact ⟨_, _, _, ⟨by assumption, rfl⟩, ⟨_, ⟨by assumption, rfl⟩, rfl⟩, rfl⟩

theorem checkCount_eq_ok_iff {name : String} {leastSize count : Nat} {rest : Bytes} :
    checkCount name leastSize count rest = .ok () ↔
      if leastSize = 0 then count ≤ maxEmptyElements
      else saturate (count * leastSize) ≤ rest.length := by
  unfold checkCount
  by_cases weightless : leastSize = 0
  · by_cases many : maxEmptyElements < count
    · simp [weightless, many]
    · simp [weightless, many, Nat.le_of_not_lt many]
  · by_cases room : saturate (count * leastSize) ≤ rest.length <;> simp [weightless, room]

/-- The early check of a count refuses nothing that there is room for. -/
theorem Reader.checked_faithful : Reader.checked.Faithful where
  builtin := decodeBuiltin_reads
  count := takeWord_reads 4
  limits := by
    intro name type count rest checked weightless
    have passed := checkCount_eq_ok_iff.mp checked
    rwa [if_pos (type.leastSize_eq_zero_iff.mpr weightless)] at passed
  admits := by
    intro name type count rest limited room
    apply checkCount_eq_ok_iff.mpr
    by_cases weightless : type.leastSize = 0
    · rw [if_pos weightless]
      exact limited (type.leastSize_eq_zero_iff.mp weightless)
    · rw [if_neg weightless]
      exact Nat.le_trans (saturate_le _) room

/-! ## Without the early check -/

/-- The reader that reads element by element, and limits weightless elements
alone. -/
def Reader.plain : Reader WireError :=
  { Reader.checked with
    check name type count _ :=
      if type.isWeightless && decide (maxEmptyElements < count) then
        .error (.arrayLength name maxEmptyElements count)
      else .ok () }

theorem Reader.plain_faithful : Reader.plain.Faithful where
  builtin := decodeBuiltin_reads
  count := takeWord_reads 4
  limits := by
    intro name type count rest checked weightless
    by_cases many : maxEmptyElements < count
    · simp [Reader.plain, weightless, many] at checked
    · exact Nat.le_of_not_lt many
  admits := by
    intro name type count rest limited _
    cases weightless : type.isWeightless with
    | false => simp [Reader.plain, weightless]
    | true => simp [Reader.plain, weightless, Nat.not_lt.mpr (limited weightless)]

/-! ## Primitive reads -/

/-- What ends the reading of a payload early. -/
inductive Stop where
  /-- The payload is refused. -/
  | refused (e : WireError)
  /-- A primitive read consumes more bytes than are left. -/
  | overrun (wanted left : Nat)

/-- Look whether a number of bytes is left. -/
def need (count : Nat) (input : Bytes) : Except Stop Unit :=
  if hasRoom count input then .ok () else .error (.refused .unexpectedEnd)

/-- A primitive read, which relies on there being enough bytes. -/
def grab (count : Nat) (input : Bytes) : Except Stop (Bytes × Bytes) :=
  if count ≤ input.length then .ok (input.take count, input.drop count)
  else .error (.overrun count input.length)

/-- A primitive read of an unsigned word. -/
def grabWord (count : Nat) (input : Bytes) : Except Stop (Nat × Bytes) := do
  let (bytes, rest) ← grab count input
  return (ofLittleEndian bytes, rest)

/-- A primitive read of a signed word. -/
def grabInt (count : Nat) (input : Bytes) : Except Stop (Int × Bytes) := do
  let (bytes, rest) ← grab count input
  return (ofLittleEndianInt bytes, rest)

/-- Read a text of a known size by a primitive read. -/
def grabText (count : Nat) (input : Bytes) : Except Stop (Value × Bytes) := do
  need count input
  let (bytes, rest) ← grab count input
  match decodeUtf8? bytes with
  | none => .error (.refused .invalidText)
  | some text => return (.string text, rest)

/-- Read a builtin element by primitive reads. -/
def grabBuiltin : Builtin → Bytes → Except Stop (Value × Bytes)
  | .bool, input => do
      let (n, rest) ← grabWord 1 input
      return (.bool (n != 0), rest)
  | .int width, input => do
      let (i, rest) ← grabInt width.bytes input
      return (.int (Int64.ofInt i), rest)
  | .uint width, input => do
      let (n, rest) ← grabWord width.bytes input
      return (ofUnsigned n, rest)
  | .float32, input => do
      let (n, rest) ← grabWord 4 input
      return (.float (Binary32.widen ⟨UInt32.ofNat n⟩), rest)
  | .float64, input => do
      let (n, rest) ← grabWord 8 input
      return (.float ⟨UInt64.ofNat n⟩, rest)
  | .string, input => do
      let (count, rest) ← grabWord 4 input
      grabText count rest
  | .time, input => do
      let (sec, rest) ← grabWord 4 input
      let (nsec, rest) ← grabWord 4 rest
      return (.stamp sec nsec, rest)
  | .duration, input => do
      let (sec, rest) ← grabInt 4 input
      let (nsec, rest) ← grabInt 4 rest
      return (.stamp sec nsec, rest)

/-- The reader that looks before each primitive read. -/
def Reader.guarded : Reader Stop where
  builtin b input := do
    need b.leastSize input
    grabBuiltin b input
  count input := do
    need 4 input
    grabWord 4 input
  check name type count rest := (checkCount name type.leastSize count rest).mapError .refused
  trailing count := .refused (.trailingBytes count)

theorem need_of_le {count : Nat} {input : Bytes} (room : count ≤ input.length) :
    need count input = .ok () := by
  simp [need, room]

theorem need_of_lt {count : Nat} {input : Bytes} (short : input.length < count) :
    need count input = .error (.refused .unexpectedEnd) := by
  simp [need, Nat.not_le.mpr short]

/-- With enough bytes left, a primitive read does not run over. -/
theorem grab_of_le {count : Nat} {input : Bytes} (room : count ≤ input.length) :
    grab count input = (take count input).mapError .refused := by
  rw [grab, if_pos room, take_of_le room]
  rfl

theorem grabWord_of_le {count : Nat} {input : Bytes} (room : count ≤ input.length) :
    grabWord count input = (takeWord count input).mapError .refused := by
  rw [grabWord, grab_of_le room, takeWord, bind_mapError]
  rfl

theorem grabInt_of_le {count : Nat} {input : Bytes} (room : count ≤ input.length) :
    grabInt count input = (takeInt count input).mapError .refused := by
  rw [grabInt, grab_of_le room, takeInt, bind_mapError]
  rfl

theorem takeWord_of_le {count : Nat} {input : Bytes} (room : count ≤ input.length) :
    takeWord count input = .ok (ofLittleEndian (input.take count), input.drop count) := by
  rw [takeWord, take_of_le room]
  rfl

theorem takeInt_of_le {count : Nat} {input : Bytes} (room : count ≤ input.length) :
    takeInt count input = .ok (ofLittleEndianInt (input.take count), input.drop count) := by
  rw [takeInt, take_of_le room]
  rfl

theorem takeWord_of_lt {count : Nat} {input : Bytes} (short : input.length < count) :
    takeWord count input = .error .unexpectedEnd := by
  rw [takeWord, take_of_lt short]
  rfl

theorem takeInt_of_lt {count : Nat} {input : Bytes} (short : input.length < count) :
    takeInt count input = .error .unexpectedEnd := by
  rw [takeInt, take_of_lt short]
  rfl

/-! ### Two words in a row -/

section Twice

variable {α : Type} {read : Bytes → Except WireError (α × Bytes)}
  {grabbed : Bytes → Except Stop (α × Bytes)} {size : Nat} {input : Bytes}

/-- Two reads in a row are refused if what both need is not left. -/
theorem twice_of_lt
    (enough : ∀ {input : Bytes}, size ≤ input.length → ∃ a, read input = .ok (a, input.drop size))
    (fails : ∀ {input : Bytes}, input.length < size → read input = .error .unexpectedEnd)
    (short : input.length < size + size) (f : α → α → Value) :
    (do
      let (first, rest) ← read input
      let (second, rest) ← read rest
      return (f first second, rest)) = .error .unexpectedEnd := by
  by_cases some : size ≤ input.length
  · obtain ⟨first, ran⟩ := enough some
    have rest : (input.drop size).length < size := by
      rw [List.length_drop]
      exact Nat.sub_lt_left_of_lt_add some short
    rw [ran]
    change (read (input.drop size) >>= _) = _
    rw [fails rest]
    rfl
  · rw [fails (Nat.lt_of_not_le some)]
    rfl

/-- With what both need left, two reads in a row do not run over. -/
theorem twice_eq
    (enough : ∀ {input : Bytes}, size ≤ input.length → ∃ a, read input = .ok (a, input.drop size))
    (same : ∀ {input : Bytes}, size ≤ input.length →
      grabbed input = (read input).mapError .refused)
    (room : size + size ≤ input.length) (f : α → α → Value) :
    (do
      let (first, rest) ← grabbed input
      let (second, rest) ← grabbed rest
      return (f first second, rest)) =
    (do
      let (first, rest) ← read input
      let (second, rest) ← read rest
      return (f first second, rest) : Except WireError (Value × Bytes)).mapError .refused := by
  have some : size ≤ input.length := Nat.le_trans (Nat.le_add_right size size) room
  have more : size ≤ (input.drop size).length := by
    rw [List.length_drop]
    exact Nat.le_sub_of_add_le room
  obtain ⟨first, ran⟩ := enough some
  rw [same some, ran]
  change (grabbed (input.drop size) >>= _) = (read (input.drop size) >>= _).mapError _
  rw [same more, bind_mapError]
  rfl

end Twice

/-- A builtin element is refused if what all of it needs is not left. -/
theorem decodeBuiltin_of_lt {builtin : Builtin} {input : Bytes}
    (short : input.length < builtin.leastSize) :
    decodeBuiltin builtin input = .error .unexpectedEnd := by
  cases builtin with
  | bool | uint | float32 | float64 | string =>
      simp only [Builtin.leastSize] at short
      rw [decodeBuiltin, takeWord_of_lt short]
      rfl
  | int =>
      simp only [Builtin.leastSize] at short
      rw [decodeBuiltin, takeInt_of_lt short]
      rfl
  | time =>
      exact twice_of_lt (fun some => ⟨_, takeWord_of_le some⟩) takeWord_of_lt short
        fun sec nsec => Value.stamp sec nsec
  | duration =>
      exact twice_of_lt (fun some => ⟨_, takeInt_of_le some⟩) takeInt_of_lt short Value.stamp

theorem grabText_eq (count : Nat) (input : Bytes) :
    grabText count input = (takeText count input).mapError .refused := by
  by_cases room : count ≤ input.length
  · rw [grabText, takeText, need_of_le room, grab_of_le room, take_of_le room]
    change (match decodeUtf8? (input.take count) with
        | none => Except.error (Stop.refused .invalidText)
        | some text => Except.ok (Value.string text, input.drop count)) =
      Except.mapError Stop.refused (match decodeUtf8? (input.take count) with
        | none => .error .invalidText
        | some text => .ok (.string text, input.drop count))
    cases decodeUtf8? (input.take count) <;> rfl
  · have short := Nat.lt_of_not_le room
    rw [grabText, takeText, need_of_lt short, take_of_lt short]
    rfl

/-- With what all of a builtin element needs left, no primitive read of it runs
over. -/
theorem grabBuiltin_eq {builtin : Builtin} {input : Bytes}
    (room : builtin.leastSize ≤ input.length) :
    grabBuiltin builtin input = (decodeBuiltin builtin input).mapError .refused := by
  cases builtin with
  | bool | uint | float32 | float64 =>
      simp only [Builtin.leastSize] at room
      simp only [grabBuiltin, decodeBuiltin, bind_mapError, grabWord_of_le room]
      rfl
  | int =>
      simp only [Builtin.leastSize] at room
      simp only [grabBuiltin, decodeBuiltin, bind_mapError, grabInt_of_le room]
      rfl
  | string =>
      simp only [Builtin.leastSize] at room
      simp only [grabBuiltin, grabWord_of_le room, grabText_eq]
      exact (bind_mapError _ _ _).symm
  | time =>
      exact twice_eq (fun some => ⟨_, takeWord_of_le some⟩) grabWord_of_le room
        fun sec nsec => Value.stamp sec nsec
  | duration =>
      exact twice_eq (fun some => ⟨_, takeInt_of_le some⟩) grabInt_of_le room Value.stamp

/-- The decoder looks ahead of every primitive read. -/
theorem Reader.guarded_eq : Reader.guarded = Reader.checked.mapError .refused := by
  have builtin : Reader.guarded.builtin = (Reader.checked.mapError .refused).builtin := by
    funext b input
    by_cases room : b.leastSize ≤ input.length
    · change (need b.leastSize input >>= fun _ => grabBuiltin b input) = _
      rw [need_of_le room]
      exact grabBuiltin_eq room
    · have short := Nat.lt_of_not_le room
      change (need b.leastSize input >>= fun _ => grabBuiltin b input) =
        (decodeBuiltin b input).mapError _
      rw [need_of_lt short, decodeBuiltin_of_lt short]
      rfl
  have count : Reader.guarded.count = (Reader.checked.mapError .refused).count := by
    funext input
    change (need 4 input >>= fun _ => grabWord 4 input) = (takeWord 4 input).mapError _
    by_cases room : 4 ≤ input.length
    · rw [need_of_le room]
      exact grabWord_of_le room
    · have short := Nat.lt_of_not_le room
      rw [need_of_lt short, takeWord_of_lt short]
      rfl
  unfold Reader.guarded Reader.mapError at *
  simp only [Reader.mk.injEq]
  exact ⟨builtin, count, rfl, rfl⟩

/-- The decoder accepts a payload as a value exactly if the whole payload is the
wire layout of the value.  So does the decoder without the early check of
counts.  And the decoder that makes each primitive read without further ado,
once it looked whether enough bytes are left, ends the same way on every
payload: it never runs over the end. -/
theorem Schema.decode_eq_ok_iff_layout (schema : Schema) (payload : Bytes) :
    (∀ value, schema.decode payload = .ok value ↔ schema.Layout value payload) ∧
    (∀ value, schema.readBy .plain payload = .ok value ↔ schema.decode payload = .ok value) ∧
    schema.readBy .guarded payload = (schema.decode payload).mapError .refused ∧
    ∀ wanted left, schema.readBy .guarded payload ≠ .error (.overrun wanted left) := by
  have guarded : schema.readBy .guarded payload = (schema.decode payload).mapError .refused := by
    rw [Reader.guarded_eq, schema.readBy_mapError, schema.decode_eq_readBy]
  refine ⟨?_, ?_, guarded, ?_⟩
  · intro value
    rw [schema.decode_eq_readBy]
    exact Schema.readBy_eq_ok_iff Reader.checked_faithful
  · intro value
    rw [schema.decode_eq_readBy, Schema.readBy_eq_ok_iff Reader.plain_faithful,
      Schema.readBy_eq_ok_iff Reader.checked_faithful]
  · intro wanted left overrun
    rw [guarded] at overrun
    cases decoded : schema.decode payload with
    | error e =>
        rw [decoded] at overrun
        cases overrun
    | ok value =>
        rw [decoded] at overrun
        cases overrun

end TopicBridge
