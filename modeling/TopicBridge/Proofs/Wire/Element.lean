import TopicBridge.Proofs.Number.Rounding
import TopicBridge.Proofs.Wire.Acceptance
import TopicBridge.Proofs.Wire.Normal
import TopicBridge.Wire.Encode

/-!
# Writing builtin elements

What is written of a builtin element is the layout of its normal form, and
writing the normal form gives the same bytes again.  A single-precision field
has lost its precision the first time.
-/

namespace TopicBridge

open Message Number Text Wire

/-- The builtin element is written as bytes that lay out its normal form, and so
is the normal form. -/
structure Message.Builtin.Settles (builtin : Builtin) (value : Option Value) (bytes : Bytes) :
    Prop where
  laid : builtin.Layout (builtin.normal value) bytes
  again : ∀ path, encodeBuiltin builtin (some (builtin.normal value)) path = .ok bytes

/-- It is enough to look at the normal form. -/
theorem Message.Builtin.Settles.of_normal {builtin : Builtin} {value : Option Value}
    {settled : Value} {bytes : Bytes} (isNormal : builtin.normal value = settled)
    (laid : builtin.Layout settled bytes)
    (again : ∀ path, encodeBuiltin builtin (some settled) path = .ok bytes) :
    builtin.Settles value bytes := by
  subst isNormal
  exact ⟨laid, again⟩

/-- An integer that is written lies in its range and is the normal form. -/
theorem integerAt_eq_ok {range : Range} {value : Option Value} {path : String} {i : Int}
    (zero : range.low ≤ 0 ∧ 0 < range.high) (found : integerAt range value path = .ok i) :
    ∃ word : Int64, word.toInt = i ∧ (range.low ≤ i ∧ i < range.high) ∧
      integerNormal value = .int word := by
  cases value with
  | none =>
      cases found
      exact ⟨0, rfl, zero, rfl⟩
  | some value =>
      simp only [integerAt] at found
      cases integer : value.asInt? with
      | none =>
          rw [integer] at found
          cases found
      | some word =>
          simp only [integer] at found
          split at found
          · rename_i bounds
            cases found
            exact ⟨word, rfl, bounds, by simp only [integerNormal, integer]⟩
          · cases found

/-- An integer in its range is written as it is. -/
theorem integerAt_int {range : Range} {word : Int64}
    (bounds : range.low ≤ word.toInt ∧ word.toInt < range.high) (path : String) :
    integerAt range (some (.int word)) path = .ok word.toInt := by
  simp only [integerAt, Value.asInt?]
  exact if_pos bounds

theorem zero_mem_signedRange (width : Width) :
    (signedRange width).low ≤ 0 ∧ 0 < (signedRange width).high := by
  cases width <;> decide

theorem zero_mem_unsignedRange (width : Width) :
    (unsignedRange width).low ≤ 0 ∧ 0 < (unsignedRange width).high := by
  cases width <;> decide

/-- The range of a signed type is what its bytes can hold. -/
theorem fitsSigned_of_signedRange {width : Width} {i : Int}
    (bounds : (signedRange width).low ≤ i ∧ i < (signedRange width).high) :
    FitsSigned width.bytes i := by
  rcases bounds with ⟨low, high⟩
  cases width <;> simp only [signedRange, Width.bytes] at low high <;> constructor <;>
    simp only [Width.bytes] <;> omega

/-- An unsigned word that a script integer holds. -/
theorem exists_unsigned {width : Width} {word : Int64}
    (bounds : (unsignedRange width).low ≤ word.toInt ∧
      word.toInt < (unsignedRange width).high) :
    ∃ n : Nat, (n : Int) = word.toInt ∧ n < 256 ^ width.bytes ∧ n < 2 ^ 63 := by
  rcases bounds with ⟨low, high⟩
  have limit := word.toInt_lt
  refine ⟨word.toInt.toNat, Int.toNat_of_nonneg low, ?_, ?_⟩
  · cases width <;> simp only [unsignedRange, Width.bytes] at low high ⊢ <;> omega
  · simp only [unsignedRange] at low
    omega

/-- The normal form of a time stamp has both parts, filled or not, and no other key. -/
theorem stampNormal_of_entries? {value : Option Value} {entries : Dict String Value}
    (found : Value.entries? value = some entries) :
    stampNormal value = .table [("sec", integerNormal (Dict.get? entries "sec")),
      ("nsec", integerNormal (Dict.get? entries "nsec"))] := by
  cases value with
  | none =>
      cases found
      rfl
  | some value => simp only [stampNormal, found]

/-- Both parts of a time stamp that is written lie in their range and are the
normal form. -/
theorem stampAt_eq_ok {range : Range} {value : Option Value} {path : String} {sec nsec : Int}
    (zero : range.low ≤ 0 ∧ 0 < range.high) (found : stampAt range value path = .ok (sec, nsec)) :
    ∃ secWord nsecWord : Int64, secWord.toInt = sec ∧ nsecWord.toInt = nsec ∧
      (range.low ≤ sec ∧ sec < range.high) ∧ (range.low ≤ nsec ∧ nsec < range.high) ∧
      stampNormal value = .table [("sec", .int secWord), ("nsec", .int nsecWord)] := by
  unfold stampAt at found
  split at found
  · cases found
  · rename_i entries table
    split at found
    · cases found
    · rcases bind_eq_ok_iff.mp found with ⟨first, atSec, found⟩
      rcases bind_eq_ok_iff.mp found with ⟨second, atNsec, same⟩
      cases same
      rcases integerAt_eq_ok zero atSec with ⟨secWord, rfl, secBounds, secNormal⟩
      rcases integerAt_eq_ok zero atNsec with ⟨nsecWord, rfl, nsecBounds, nsecNormal⟩
      refine ⟨secWord, nsecWord, rfl, rfl, secBounds, nsecBounds, ?_⟩
      rw [stampNormal_of_entries? table, secNormal, nsecNormal]

theorem stampAt_table {range : Range} {sec nsec : Int64}
    (secBounds : range.low ≤ sec.toInt ∧ sec.toInt < range.high)
    (nsecBounds : range.low ≤ nsec.toInt ∧ nsec.toInt < range.high) (path : String) :
    stampAt range (some (.table [("sec", .int sec), ("nsec", .int nsec)])) path =
      .ok (sec.toInt, nsec.toInt) := by
  have parts : Dict.get? [("sec", Value.int sec), ("nsec", .int nsec)] "sec" = some (.int sec) ∧
      Dict.get? [("sec", Value.int sec), ("nsec", .int nsec)] "nsec" = some (.int nsec) := by
    constructor <;> simp [Dict.get?_cons]
  have known : unknownKey? (fun key => key == "sec" || key == "nsec")
      [("sec", Value.int sec), ("nsec", .int nsec)] = none := by
    simp [unknownKey?, Dict.keys]
  simp only [stampAt, Value.entries?, known, parts.1, parts.2, integerAt_int secBounds,
    integerAt_int nsecBounds]
  rfl

/-- A number that is given for a truth value becomes one. -/
theorem truthAt_eq_ok {value : Option Value} {path : String} {b : Bool}
    (found : truthAt value path = .ok b) : truthNormal value = .bool b := by
  unfold truthAt at found
  split at found
  · cases found
    rfl
  · cases found
    rfl
  · rename_i value other
    split at found
    · cases found
    · rename_i i integer
      cases found
      cases value with
      | bool b => exact absurd rfl (other b)
      | _ => simp only [truthNormal, integer]

/-- A number is rounded to the precision of its field, and a missing one is zero. -/
theorem numberAt_eq_ok {value : Option Value} {path : String} {x : Binary64}
    {round : Binary64 → Binary64} (zero : round .zero = .zero)
    (found : numberAt value path = .ok x) : numberNormal round value = .float (round x) := by
  cases value with
  | none =>
      cases found
      rw [numberNormal, zero]
  | some value =>
      simp only [numberAt] at found
      cases number : value.asFloat? with
      | none =>
          rw [number] at found
          cases found
      | some y =>
          rw [number] at found
          cases found
          simp only [numberNormal, number]

theorem textAt_eq_ok {value : Option Value} {path : String} {text : String}
    (found : textAt value path = .ok text) : value.getD (.string "") = .string text := by
  unfold textAt at found
  split at found
  · cases found
    rfl
  · cases found
    rfl
  · cases found

/-- A count is written only if it fits into its four bytes. -/
theorem countWord_eq_ok {count : Nat} {path : String} {bytes : Bytes}
    (counted : countWord count path = .ok bytes) :
    count < 256 ^ 4 ∧ littleEndian 4 count = bytes := by
  unfold countWord at counted
  split at counted
  · rename_i fits
    cases counted
    exact ⟨fits, rfl⟩
  · cases counted

theorem countWord_of_lt {count : Nat} (fits : count < 256 ^ 4) (path : String) :
    countWord count path = .ok (littleEndian 4 count) :=
  if_pos fits

/-- What is written of a builtin element lays out its normal form. -/
theorem Message.Builtin.settles {builtin : Builtin} {value : Option Value} {path : String}
    {bytes : Bytes} (encoded : encodeBuiltin builtin value path = .ok bytes) :
    builtin.Settles value bytes := by
  cases builtin with
  | bool =>
      rcases bind_eq_ok_iff.mp encoded with ⟨b, found, same⟩
      cases same
      have isNormal : Builtin.bool.normal value = .bool b := truthAt_eq_ok found
      apply Builtin.Settles.of_normal isNormal
      · cases b with
        | false => exact Builtin.Layout.bool 0
        | true => exact Builtin.Layout.bool 1
      · intro path
        rfl
  | int width =>
      rcases bind_eq_ok_iff.mp encoded with ⟨i, found, same⟩
      cases same
      rcases integerAt_eq_ok (zero_mem_signedRange width) found with ⟨word, rfl, bounds, normal⟩
      have isNormal : (Builtin.int width).normal value = .int word := normal
      apply Builtin.Settles.of_normal isNormal
      · have laid := Builtin.Layout.int (fitsSigned_of_signedRange bounds)
        rw [Int64.ofInt_toInt] at laid
        exact laid
      · intro path
        exact bind_eq_ok_iff.mpr ⟨_, integerAt_int bounds path, rfl⟩
  | uint width =>
      rcases bind_eq_ok_iff.mp encoded with ⟨i, found, same⟩
      cases same
      rcases integerAt_eq_ok (zero_mem_unsignedRange width) found with ⟨word, rfl, bounds, normal⟩
      rcases exists_unsigned bounds with ⟨n, same, fits, small⟩
      have isNormal : (Builtin.uint width).normal value = .int word := normal
      apply Builtin.Settles.of_normal isNormal
      · have laid := Builtin.Layout.uint fits small
        rw [same, Int64.ofInt_toInt] at laid
        rw [← same, littleEndianInt_natCast fits]
        exact laid
      · intro path
        exact bind_eq_ok_iff.mpr ⟨_, integerAt_int bounds path, rfl⟩
  | float32 =>
      rcases bind_eq_ok_iff.mp encoded with ⟨x, found, same⟩
      cases same
      have isNormal : Builtin.float32.normal value = .float x.narrow.widen :=
        numberAt_eq_ok Binary64.widen_narrow_zero found
      have settled : x.narrow.widen.narrow = x.narrow :=
        Binary32.narrow_widen x.isSignaling_narrow
      apply Builtin.Settles.of_normal isNormal (Builtin.Layout.float32 x.narrow)
      intro path
      refine bind_eq_ok_iff.mpr ⟨x.narrow.widen, rfl, ?_⟩
      rw [settled]
      rfl
  | float64 =>
      rcases bind_eq_ok_iff.mp encoded with ⟨x, found, same⟩
      cases same
      have isNormal : Builtin.float64.normal value = .float x := numberAt_eq_ok rfl found
      apply Builtin.Settles.of_normal isNormal (Builtin.Layout.float64 x)
      intro path
      rfl
  | string =>
      rcases bind_eq_ok_iff.mp encoded with ⟨text, found, encoded⟩
      rcases bind_eq_ok_iff.mp encoded with ⟨count, counted, same⟩
      cases same
      rcases countWord_eq_ok counted with ⟨fits, rfl⟩
      have isNormal : Builtin.string.normal value = .string text := textAt_eq_ok found
      apply Builtin.Settles.of_normal isNormal (Builtin.Layout.string fits)
      intro path
      exact bind_eq_ok_iff.mpr ⟨text, rfl, bind_eq_ok_iff.mpr ⟨_, countWord_of_lt fits path, rfl⟩⟩
  | time =>
      rcases bind_eq_ok_iff.mp encoded with ⟨⟨sec, nsec⟩, found, same⟩
      cases same
      rcases stampAt_eq_ok (zero_mem_unsignedRange .w32) found with
        ⟨secWord, nsecWord, rfl, rfl, secBounds, nsecBounds, normal⟩
      rcases exists_unsigned secBounds with ⟨sec, sameSec, fitsSec, _⟩
      rcases exists_unsigned nsecBounds with ⟨nsec, sameNsec, fitsNsec, _⟩
      change sec < 256 ^ 4 at fitsSec
      change nsec < 256 ^ 4 at fitsNsec
      have isNormal : Builtin.time.normal value =
          .table [("sec", .int secWord), ("nsec", .int nsecWord)] := normal
      apply Builtin.Settles.of_normal isNormal
      · have laid := Builtin.Layout.time fitsSec fitsNsec
        rw [sameSec, sameNsec, Value.stamp, Int64.ofInt_toInt, Int64.ofInt_toInt,
          ← littleEndianInt_natCast fitsSec, ← littleEndianInt_natCast fitsNsec,
          sameSec, sameNsec] at laid
        exact laid
      · intro path
        exact bind_eq_ok_iff.mpr ⟨_, stampAt_table secBounds nsecBounds path, rfl⟩
  | duration =>
      rcases bind_eq_ok_iff.mp encoded with ⟨⟨sec, nsec⟩, found, same⟩
      cases same
      rcases stampAt_eq_ok (zero_mem_signedRange .w32) found with
        ⟨secWord, nsecWord, rfl, rfl, secBounds, nsecBounds, normal⟩
      have isNormal : Builtin.duration.normal value =
          .table [("sec", .int secWord), ("nsec", .int nsecWord)] := normal
      apply Builtin.Settles.of_normal isNormal
      · have laid := Builtin.Layout.duration (fitsSigned_of_signedRange secBounds)
          (fitsSigned_of_signedRange nsecBounds)
        rw [Value.stamp, Int64.ofInt_toInt, Int64.ofInt_toInt] at laid
        exact laid
      · intro path
        exact bind_eq_ok_iff.mpr ⟨_, stampAt_table secBounds nsecBounds path, rfl⟩

end TopicBridge
