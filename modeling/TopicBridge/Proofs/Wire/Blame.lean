import TopicBridge.Proofs.Wire.Fault
import TopicBridge.Proofs.Wire.Filled

/-!
# Blaming the first fault

Writing goes through a value in the order in which its faults are listed and stops
at the first one.  What a value leaves out is written without a fault, so the missing
fields and items between the faults make no difference.
-/

namespace TopicBridge

open Message Number Text Wire

/-- Writing succeeds if there are no faults, and fails with the first one if there are. -/
def Blames {α : Type} (written : Except WireError α) (faults : List WireError) : Prop :=
  match faults with
  | [] => ∃ a, written = .ok a
  | first :: _ => written = .error first

namespace Blames

variable {α β : Type} {written : Except WireError α} {faults more : List WireError}

/-- Nothing is at fault in what is written, and everything else is refused. -/
theorem ok_iff (blames : Blames written faults) : (∃ a, written = .ok a) ↔ faults = [] := by
  cases faults with
  | nil => exact iff_of_true blames rfl
  | cons first rest =>
      apply iff_of_false
      · rintro ⟨a, same⟩
        rw [Blames, same] at blames
        cases blames
      · exact List.cons_ne_nil first rest

/-- The error is the first of the faults, and tells nothing of the others. -/
theorem error_iff (blames : Blames written faults) {e : WireError} :
    written = .error e ↔ faults.head? = some e := by
  cases faults with
  | nil =>
      obtain ⟨a, rfl⟩ := blames
      exact iff_of_false nofun nofun
  | cons first rest =>
      rw [Blames] at blames
      rw [blames, List.head?_cons]
      constructor
      · rintro ⟨⟩
        rfl
      · rintro ⟨⟩
        rfl

/-- What comes next is tried where there is no fault before. -/
theorem bind (head : Blames written faults) {next : α → Except WireError β}
    (tail : ∀ a, Blames (next a) more) : Blames (written >>= next) (faults ++ more) := by
  cases faults with
  | nil =>
      obtain ⟨a, rfl⟩ := head
      exact tail a
  | cons first rest =>
      rw [Blames] at head
      rw [head]
      rfl

theorem map (blames : Blames written faults) (f : α → β) : Blames (written.map f) faults := by
  cases faults with
  | nil =>
      obtain ⟨a, rfl⟩ := blames
      exact ⟨f a, rfl⟩
  | cons first rest =>
      rw [Blames] at blames
      rw [blames]
      rfl

/-- A last step that cannot fail. -/
theorem andThen (blames : Blames written faults) (f : α → β) :
    Blames (do return f (← written)) faults := by
  have last (a : α) : Blames (.ok (f a)) [] := ⟨f a, rfl⟩
  have whole := blames.bind last
  rwa [List.append_nil] at whole

end Blames

/-! ## Builtin elements -/

/-- What is no integer is at fault for its kind, and an integer for being out of range.
-/
theorem integerAt_blames (range : Range) (value : Value) (path : String) :
    Blames (integerAt range (some value) path) (integerFaults range value path) := by
  simp only [integerAt, integerFaults]
  cases value.asInt? with
  | none => rfl
  | some i =>
      by_cases fits : range.low ≤ i.toInt ∧ i.toInt < range.high
      · simp only [if_pos fits]
        exact ⟨i.toInt, rfl⟩
      · simp only [if_neg fits]
        rfl

/-- A count must fit into four bytes. -/
theorem countWord_blames (count : Nat) (path : String) :
    Blames (countWord count path) (countFaults count path) := by
  unfold countWord countFaults
  by_cases fits : count < 2 ^ 32
  · rw [if_pos fits, if_pos fits]
    exact ⟨_, rfl⟩
  · rw [if_neg fits, if_neg fits]
    rfl

/-- Every integer stands for a truth value, so none of them is out of range. -/
theorem truthAt_blames (value : Value) (path : String) :
    Blames (truthAt (some value) path) (Builtin.bool.faults value path) := by
  cases value with
  | bool b => exact ⟨b, rfl⟩
  | int i => exact ⟨i != 0, rfl⟩
  | float x =>
      simp only [truthAt, Builtin.faults]
      cases (Value.float x).asInt? with
      | none => rfl
      | some i => exact ⟨i != 0, rfl⟩
  | _ => rfl

theorem numberAt_blames (value : Value) (path : String) :
    Blames (numberAt (some value) path)
      (if value.asFloat?.isSome then [] else [.typeMismatch path .number]) := by
  simp only [numberAt]
  cases value.asFloat? with
  | none => rfl
  | some x => exact ⟨x, rfl⟩

/-- The first unknown key is the first one to blame. -/
theorem unknownFaults_cases (isKnown : String → Bool) (entries : Dict String Value)
    (path : String) :
    (unknownKey? isKnown entries = none ∧ unknownFaults isKnown entries path = []) ∨
      ∃ key later, unknownKey? isKnown entries = some key ∧
        unknownFaults isKnown entries path = .unexpectedField (joinPath path key) :: later := by
  unfold unknownKey? unknownFaults
  rw [← List.head?_filter]
  cases (Dict.keys entries).filter fun key => !isKnown key with
  | nil => exact Or.inl ⟨rfl, rfl⟩
  | cons key rest => exact Or.inr ⟨key, _, rfl, rfl⟩

/-- A key that is neither part of a time stamp is blamed before the parts, and the
seconds before the nanoseconds. -/
theorem stampAt_blames (range : Range) (value : Value) (path : String) :
    Blames (stampAt range (some value) path) (stampFaults range value path) := by
  have part (entries : Dict String Value) (name : String) :
      Blames (integerAt range (Dict.get? entries name) (joinPath path name))
        (entryFaults (integerFaults range) entries path name) := by
    unfold entryFaults
    cases Dict.get? entries name with
    | none => exact ⟨0, rfl⟩
    | some value => exact integerAt_blames range value (joinPath path name)
  unfold stampAt stampFaults
  cases Value.entries? (some value) with
  | none => rfl
  | some entries =>
      rcases unknownFaults_cases (fun key => key == "sec" || key == "nsec") entries path with
        ⟨known, noFault⟩ | ⟨key, later, found, faults⟩
      · simp only [known, noFault]
        apply (part entries "sec").bind
        intro sec
        exact (part entries "nsec").andThen fun nsec => (sec, nsec)
      · simp only [found, faults]
        rfl

/-- A builtin element is checked part by part before anything of it is written. -/
theorem Message.Builtin.blames (builtin : Builtin) (value : Value) (path : String) :
    Blames (encodeBuiltin builtin (some value) path) (builtin.faults value path) := by
  cases builtin with
  | bool => exact (truthAt_blames value path).andThen _
  | int width => exact (integerAt_blames (signedRange width) value path).andThen _
  | uint width => exact (integerAt_blames (unsignedRange width) value path).andThen _
  | float32 => exact (numberAt_blames value path).andThen _
  | float64 => exact (numberAt_blames value path).andThen _
  | string =>
      cases value with
      | string text => exact (countWord_blames text.utf8ByteSize path).andThen _
      | _ => rfl
  | time => exact (stampAt_blames (unsignedRange .w32) value path).andThen _
  | duration => exact (stampAt_blames (signedRange .w32) value path).andThen _

/-! ## Arrays -/

/-- Items are written one after another, and the first fault of any of them ends the
array. -/
theorem encodeItems_blames {α : Type} {element : α → Except WireError Builder}
    {faults : α → List WireError} (each : ∀ item, Blames (element item) (faults item))
    (items : List α) : Blames (encodeItems element items) (items.flatMap faults) := by
  apply Blames.andThen
  induction items with
  | nil => exact ⟨[], rfl⟩
  | cons item rest ih =>
      rw [List.mapM_cons, List.flatMap_cons]
      apply (each item).bind
      intro first
      exact ih.andThen (first :: ·)

section Arrays

variable {type : ElementType} {element : Option Value → Except WireError Builder}
  {faults : Value → List WireError}

/-- The length of a sequence is counted before its items are looked at. -/
theorem encodeSequence_blames (each : ∀ item, Blames (element (some item)) (faults item))
    (value : Value) (path : String) :
    Blames (encodeSequence type element (some value) path)
      (Shape.sequence.faults type faults value path) := by
  cases value with
  | array items =>
      have least : (type.leastSize == 0) = type.isWeightless := by
        rw [Bool.eq_iff_iff, beq_iff_eq, type.leastSize_eq_zero_iff]
      have counted := (countWord_blames items.length path).bind fun count =>
        (encodeItems_blames each items).andThen (Builder.chunk count).append
      simp only [encodeSequence, Shape.faults, lengthFaults, least]
      cases type.isWeightless with
      | false =>
          rw [Bool.and_false]
          exact counted
      | true =>
          rw [Bool.and_true]
          by_cases few : items.length ≤ maxEmptyElements
          · rw [decide_eq_false (Nat.not_lt.mpr few), if_pos few]
            exact counted
          · rw [decide_eq_true (Nat.lt_of_not_le few), if_neg few]
            rfl
  | string text =>
      simp only [encodeSequence, Shape.faults]
      cases type.isByte with
      | false => rfl
      | true => exact (countWord_blames text.utf8ByteSize path).andThen _
  | _ => rfl

/-- Items that are missing have no faults, so it makes no difference that they are written
after the others. -/
theorem encodeFixed_blames (each : ∀ item, Blames (element (some item)) (faults item))
    {least : Nat} (missing : WritesLength (element none) least) (length : Nat) (value : Value)
    (path : String) :
    Blames (encodeFixed type element length (some value) path)
      ((Shape.fixed length).faults type faults value path) := by
  have padded (left : Nat) : Blames (encodeItems element (List.replicate left none)) [] :=
    (writes_replicate missing left).exists_ok
  cases value with
  | array items =>
      simp only [encodeFixed, Shape.faults, lengthFaults]
      by_cases short : items.length ≤ length
      · rw [if_neg (Nat.not_lt.mpr short), if_pos short, List.nil_append]
        have whole := (encodeItems_blames each items).bind fun elements =>
          (padded (length - items.length)).andThen elements.append
        rwa [List.append_nil] at whole
      · rw [if_pos (Nat.lt_of_not_le short), if_neg short]
        rfl
  | string text =>
      simp only [encodeFixed, Shape.faults, lengthFaults]
      cases type.isByte with
      | false => rfl
      | true =>
          by_cases short : text.utf8ByteSize ≤ length
          · simp only [if_neg (Nat.not_lt.mpr short), if_pos short]
            exact (padded (length - text.utf8ByteSize)).andThen _
          · simp only [if_pos (Nat.lt_of_not_le short), if_neg short]
            rfl
  | _ => rfl

theorem encodeShape_blames (type : ElementType) (element : Option Value → Except WireError Builder)
    (faults : Value → List WireError)
    (each : ∀ item, Blames (element (some item)) (faults item)) {least : Nat}
    (missing : WritesLength (element none) least) (shape : Shape) (value : Value)
    (path : String) :
    Blames (encodeShape type element shape (some value) path)
      (shape.faults type faults value path) := by
  cases shape with
  | single => exact each value
  | sequence => exact encodeSequence_blames each value path
  | fixed length => exact encodeFixed_blames each missing length value path

end Arrays

/-! ## Messages -/

mutual

/-- The faults of an element are those of the builtin or of the message that it is. -/
theorem ElementType.blames : ∀ (type : ElementType) (value : Value) (path : String),
    Blames (type.encode (some value) path) (type.faults value path)
  | .builtin b, value, path => (b.blames value path).map Builder.chunk
  | .message schema, value, path => schema.blames value path
termination_by structural type => type

/-- A field that the schema does not have is blamed before any field that it has. -/
theorem Schema.blames : ∀ (schema : Schema) (value : Value) (path : String),
    Blames (schema.encodeAt (some value) path) (schema.faultsAt value path)
  | ⟨name, fields, constants⟩, value, path => by
      rw [Schema.encodeAt, Schema.faultsAt]
      cases Value.entries? (some value) with
      | none => rfl
      | some entries =>
          rcases unknownFaults_cases (fun key => fields.any fun field => field.name == key)
            entries path with ⟨known, noFault⟩ | ⟨key, later, found, faults⟩
          · simp only [known, noFault]
            exact blames_fields fields entries path
          · simp only [found, faults]
            rfl
termination_by structural schema => schema

theorem blames_fields : ∀ (fields : List Field) (entries : Dict String Value) (path : String),
    Blames (encodeFields fields entries path) (fieldFaults fields entries path)
  | [], _, _ => ⟨.empty, rfl⟩
  | field :: rest, entries, path => by
      rw [encodeFields, fieldFaults]
      apply (field.blames entries path).bind
      intro first
      exact (blames_fields rest entries path).andThen first.append
termination_by structural fields => fields

/-- A field that is left out is filled, and is not at fault. -/
theorem Field.blames : ∀ (field : Field) (entries : Dict String Value) (path : String),
    Blames (field.encode entries path) (field.faults entries path)
  | ⟨name, type, shape⟩, entries, path => by
      have missing := type.writes_none (joinPath path name)
      rw [Field.encode, Field.faults, entryFaults]
      cases Dict.get? entries name with
      | none =>
          exact (writes_shape_none name (fun value => type.encode value (joinPath path name)) shape
            (joinPath path name) missing).exists_ok
      | some value =>
          exact encodeShape_blames type (fun value => type.encode value (joinPath path name))
            (fun item => type.faults item (joinPath path name))
            (fun item => type.blames item (joinPath path name)) missing shape value
            (joinPath path name)
termination_by structural field => field

end

end TopicBridge
