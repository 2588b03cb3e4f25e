import TopicBridge.Proofs.Catalog.Resend
import TopicBridge.Proofs.Number.Truncation
import TopicBridge.Proofs.Script.Calls
import TopicBridge.Proofs.Wire.Blame
import TopicBridge.Proofs.Wire.Exchange

/-!
# Floating-point numbers in the place of integers

A script may give a floating-point number wherever an integer is wanted: inside a message, as
a handle, or as a queue size.  It is taken exactly if it is finite and denotes an integer that
a word can hold, and then everything goes as with that integer.  It is never rounded, and never
held within bounds.
-/

namespace TopicBridge

open Message Number Wire

/-! ## The integer of a number -/

theorem Value.asInt?_float_eq_some_iff {x : Binary64} {word : Int64} :
    (Value.float x).asInt? = some word ↔ x.IsInteger word.toInt := by
  rw [asInt?, Option.bind_eq_some_iff]
  simp only [wordOfInt?_eq_some_iff, exists_eq_right', Binary64.toInt?_eq_some_iff]

theorem Value.asInt?_float_eq_none_iff {x : Binary64} :
    (Value.float x).asInt? = none ↔ ∀ i : Int, -2 ^ 63 ≤ i → i < 2 ^ 63 → ¬ x.IsInteger i := by
  rw [Option.eq_none_iff_forall_ne_some]
  constructor
  · intro absent i low high denoted
    have word := Int64.toInt_ofInt_of_le low high
    apply absent (Int64.ofInt i)
    rwa [asInt?_float_eq_some_iff, word]
  · intro absent word found
    exact absent word.toInt word.le_toInt word.toInt_lt (asInt?_float_eq_some_iff.mp found)

theorem Value.denotes_float_iff {x : Binary64} {i : Int} :
    (Value.float x).Denotes i ↔ x.IsInteger i ∧ -2 ^ 63 ≤ i ∧ i < 2 ^ 63 :=
  and_congr Binary64.toInt?_eq_some_iff Iff.rfl

/-- Of all bit patterns only the two zeros denote zero. -/
theorem Binary64.isInteger_zero_iff {x : Binary64} : x.IsInteger 0 ↔ x.word = 0 := by
  have positive : 0 < binary64.magnitude x.word ↔ 0 < x.word := Format.magnitude_pos_iff
  have nothing : x.units = 0 ↔ x.word = 0 := by
    rw [units]
    split <;> omega
  rw [isInteger_iff, Int.zero_mul, nothing]
  constructor
  · exact And.right
  · intro zero
    refine ⟨?_, zero⟩
    rw [isFinite, zero]
    rfl

theorem integerAt_eq_ok_iff {range : Range} {value : Value} {path : String} {i : Int} :
    integerAt range (some value) path = .ok i ↔
      value.Denotes i ∧ range.low ≤ i ∧ i < range.high := by
  rw [Value.denotes_iff, integerAt]
  cases value.asInt? with
  | none => simp
  | some word =>
      simp only [Option.some.injEq, exists_eq_left']
      split
      · rename_i inside
        constructor
        · rintro ⟨rfl⟩
          exact ⟨rfl, inside⟩
        · rintro ⟨rfl, _⟩
          rfl
      · rename_i outside
        constructor
        · intro refused
          cases refused
        · rintro ⟨rfl, inside⟩
          exact absurd inside outside

namespace Command

/-! ## Arguments -/

/-- The position of the argument that is a handle or a queue size. -/
def Verb.numberPosition : Verb → Nat
  | advertise => 2
  | subscribe => 3
  | publish => 0
  | shutdownPublisher => 0
  | shutdownSubscriber => 0

variable {given taken : Value} {word : Int64}

theorem argument_set_ne {position other : Nat} (ne : position ≠ other) (arguments : List Value)
    (value : Value) : argument (arguments.set position value) other = argument arguments other := by
  rw [argument, argument, List.getD_eq_getElem?_getD, List.getD_eq_getElem?_getD,
    List.getElem?_set_ne ne]

theorem argument_set_self {position : Nat} {arguments : List Value}
    (there : position < arguments.length) (value : Value) :
    argument (arguments.set position value) position = value := by
  rw [argument, List.getD_eq_getElem?_getD, List.getElem?_set_self there, Option.getD_some]

theorem readHandle_exchange (found : given.asInt? = some word) (again : taken.asInt? = some word) :
    readHandle given = readHandle taken := by
  simp only [readHandle, found, again]

theorem readQueueSize_exchange (found : given.asInt? = some word)
    (again : taken.asInt? = some word) (default : Nat) :
    readQueueSize default given = readQueueSize default taken := by
  have givenHere := (Value.denotes_iff.mpr ⟨word, found, rfl⟩).isNil_eq_false
  have takenHere := (Value.denotes_iff.mpr ⟨word, again, rfl⟩).isNil_eq_false
  simp only [readQueueSize, givenHere, takenHere, found, again]

theorem readHandle_of_none (absent : given.asInt? = none) :
    readHandle given = .error (.kind .handle .integer given.kind) := by
  simp only [readHandle, absent]

theorem readQueueSize_of_none (absent : given.asInt? = none) (there : given.isNil = false)
    (default : Nat) :
    readQueueSize default given = .error (.kind .queueSize .integer given.kind) := by
  simp [readQueueSize, absent, there]

/-- What a reader makes of one argument carries over to the arguments of a call. -/
theorem argument_set_congr {α : Type} {reader : Value → α} (same : reader given = reader taken)
    (position : Nat) (arguments : List Value) :
    reader (argument (arguments.set position given) position) =
      reader (argument (arguments.set position taken) position) := by
  by_cases there : position < arguments.length
  · rw [argument_set_self there, argument_set_self there, same]
  · rw [List.set_eq_of_length_le (Nat.le_of_not_lt there),
      List.set_eq_of_length_le (Nat.le_of_not_lt there)]

/-- It makes no difference to a call which of two values for one integer it gives. -/
theorem read_exchange (found : given.asInt? = some word) (again : taken.asInt? = some word)
    (verb : Verb) (default : Nat) (arguments : List Value) :
    read verb default (arguments.set verb.numberPosition given) =
      read verb default (arguments.set verb.numberPosition taken) := by
  have handle := argument_set_congr (readHandle_exchange found again)
  have queueSize := argument_set_congr (readQueueSize_exchange found again default)
  have counted (position least most : Nat) :
      checkCount (arguments.set position given) least most =
        checkCount (arguments.set position taken) least most := by
    rw [checkCount, checkCount, List.length_set, List.length_set]
  have others {position other : Nat} (ne : position ≠ other) :
      argument (arguments.set position given) other =
        argument (arguments.set position taken) other := by
    rw [argument_set_ne ne, argument_set_ne ne]
  cases verb with
  | advertise =>
      simp only [read, Verb.numberPosition, counted 2, queueSize 2, @others 2 0 (by decide),
        @others 2 1 (by decide), @others 2 3 (by decide)]
  | subscribe =>
      simp only [read, Verb.numberPosition, counted 3, queueSize 3, @others 3 0 (by decide),
        @others 3 1 (by decide), @others 3 2 (by decide)]
  | publish =>
      simp only [read, Verb.numberPosition, counted 0, handle 0, @others 0 1 (by decide)]
  | shutdownPublisher => simp only [read, Verb.numberPosition, counted 0, handle 0]
  | shutdownSubscriber => simp only [read, Verb.numberPosition, counted 0, handle 0]

theorem parse_exchange (found : given.asInt? = some word) (again : taken.asInt? = some word)
    (verb : Verb) (arguments : List Value) (config : BridgeConfig) :
    parse verb.name (arguments.set verb.numberPosition given) config =
      parse verb.name (arguments.set verb.numberPosition taken) config := by
  simp only [parse, Verb.ofName?_eq_some_iff.mpr rfl, read_exchange found again]

/-- The number in a call that has a form stands for an integer. -/
theorem Form.denotes {default : Nat} {name : String} {arguments : List Value} {command : Command}
    (form : Form default name arguments command)
    (there : arguments[command.verb.numberPosition]? = some given) (filled : given.isNil = false) :
    ∃ i, given.Denotes i := by
  have asked {rest : Option Value} {size : Nat} (sized : IsQueueSize default rest size)
      (there : rest = some given) : ∃ i, given.Denotes i := by
    cases sized with
    | absent => cases there
    | nil =>
        cases there
        cases filled
    | given denotes =>
        cases there
        exact ⟨_, denotes⟩
  cases form with
  | advertise _ _ sized => exact asked sized there
  | subscribe _ _ sized => exact asked sized there
  | publish held =>
      cases there
      exact ⟨_, held.1⟩
  | shutdownPublisher held =>
      cases there
      exact ⟨_, held.1⟩
  | shutdownSubscriber held =>
      cases there
      exact ⟨_, held.1⟩

/-- A call is accepted only if the value in the place of its integer stands for one. -/
theorem denotes_of_parse {verb : Verb} {arguments : List Value} {config : BridgeConfig}
    {command : Command} (long : verb.numberPosition < arguments.length)
    (filled : given.isNil = false)
    (done : parse verb.name (arguments.set verb.numberPosition given) config = .ok command) :
    ∃ i, given.Denotes i := by
  have form := parse_eq_ok_iff.mp done
  have same : command.verb = verb :=
    Option.some.inj ((Verb.ofName?_eq_some_iff.mpr form.verb_name).symm.trans
      (Verb.ofName?_eq_some_iff.mpr rfl))
  apply form.denotes ?_ filled
  rw [same, List.getElem?_set_self long]

end Command

/-! ## Every number -/

/-- What comes of a floating-point number in the place of an integer. -/
structure Binary64.IntegerExact (x : Binary64) : Prop where
  /-- An integer is found exactly if it is the number, and a word can hold it. -/
  found : ∀ word : Int64, (Value.float x).asInt? = some word ↔ x.IsInteger word.toInt
  /-- None is found exactly if the number is not an integer that a word can hold. -/
  absent : (Value.float x).asInt? = none ↔ ∀ i : Int, -2 ^ 63 ≤ i → i < 2 ^ 63 → ¬ x.IsInteger i
  /-- Both zeros are taken for zero, and nothing else is. -/
  zero : (Value.float x).asInt? = some 0 ↔ x.word = 0
  /-- Testing for a part behind the point, comparing with the bounds of a word and truncating
  comes to the same. -/
  checked : x.checkedInt? = (Value.float x).asInt?
  /-- As an integer of a message the number is itself. -/
  field : ∀ (range : Range) (path : String) (i : Int),
    integerAt range (some (.float x)) path = .ok i ↔
      x.IsInteger i ∧ (-2 ^ 63 ≤ i ∧ i < 2 ^ 63) ∧ range.low ≤ i ∧ i < range.high
  /-- As a handle the number is itself. -/
  handle : ∀ handle : Handle, Command.readHandle (.float x) = .ok handle ↔
    x.IsInteger handle.index ∧ handle.index < 2 ^ 31
  /-- As a queue size the number is itself. -/
  queueSize : ∀ default size : Nat, Command.readQueueSize default (.float x) = .ok size ↔
    x.IsInteger size ∧ 1 ≤ size ∧ size < 2 ^ 63
  /-- A message with the number in the place of an integer has the outcome that it has with the
  integer, be it bytes or an error. -/
  message : ∀ word : Int64, x.IsInteger word.toInt → ∀ (schema : Schema) (value other : Value),
    (ElementType.message schema).Exchanges (.float x) (.int word) value other →
      schema.encode value = schema.encode other
  /-- A call with the number for its handle or its queue size has the outcome that it has with
  the integer, be it a command or an error. -/
  call : ∀ word : Int64, x.IsInteger word.toInt →
    ∀ (verb : Command.Verb) (arguments : List Value) (config : BridgeConfig),
      Command.parse verb.name (arguments.set verb.numberPosition (.float x)) config =
        Command.parse verb.name (arguments.set verb.numberPosition (.int word)) config
  /-- A message with the number in the place of an integer is refused, if the number is none. -/
  refusedMessage : (∀ word : Int64, ¬ x.IsInteger word.toInt) →
    ∀ (schema : Schema) (taken value other : Value),
      (ElementType.message schema).Exchanges (.float x) taken value other →
        ∀ bytes, schema.encode value ≠ .ok bytes
  /-- A call with the number for its handle or its queue size is refused, if the number is no
  integer. -/
  refusedCall : (∀ word : Int64, ¬ x.IsInteger word.toInt) →
    ∀ (verb : Command.Verb) (arguments : List Value) (config : BridgeConfig),
      verb.numberPosition < arguments.length → ∀ command,
        Command.parse verb.name (arguments.set verb.numberPosition (.float x)) config ≠ .ok command
  /-- The errors name what was wanted. -/
  errors : (∀ word : Int64, ¬ x.IsInteger word.toInt) →
    (∀ (range : Range) (path : String),
      integerAt range (some (.float x)) path = .error (.typeMismatch path .integer)) ∧
    Command.readHandle (.float x) = .error (.kind .handle .integer .number) ∧
    ∀ default : Nat,
      Command.readQueueSize default (.float x) = .error (.kind .queueSize .integer .number)

/-- Every bit pattern is taken for the integer that it denotes, and for no other. -/
theorem Binary64.integer_exact (x : Binary64) : x.IntegerExact := by
  have missing (noInteger : ∀ word : Int64, ¬ x.IsInteger word.toInt) :
      (Value.float x).asInt? = none :=
    Option.eq_none_iff_forall_ne_some.mpr fun word found =>
      noInteger word (Value.asInt?_float_eq_some_iff.mp found)
  have vague (noInteger : ∀ word : Int64, ¬ x.IsInteger word.toInt) :
      ¬ ∃ i, (Value.float x).Denotes i := by
    rw [← Value.isSome_asInt?_iff, missing noInteger]
    exact Bool.false_ne_true
  constructor
  case found => exact fun _ => Value.asInt?_float_eq_some_iff
  case absent => exact Value.asInt?_float_eq_none_iff
  case zero => exact Value.asInt?_float_eq_some_iff.trans isInteger_zero_iff
  case checked =>
    apply Option.ext
    intro word
    rw [checkedInt?_eq_some_iff, Value.asInt?_float_eq_some_iff]
  case field =>
    intro range path i
    rw [integerAt_eq_ok_iff, Value.denotes_float_iff, and_assoc]
  case handle =>
    intro handle
    rw [Command.readHandle_eq_ok_iff, Command.IsHandle, Value.denotes_float_iff, and_assoc]
    exact and_congr Iff.rfl (by omega)
  case queueSize =>
    intro default size
    rw [Command.readQueueSize_given rfl, Value.denotes_float_iff, and_assoc]
    exact and_congr Iff.rfl (by omega)
  case message =>
    intro word denoted schema value other exchanges
    have found := Value.asInt?_float_eq_some_iff.mpr denoted
    exact congrArg (Except.map Builder.toBytes) (exchanges.encode_eq found rfl "")
  case call =>
    intro word denoted verb arguments config
    have found := Value.asInt?_float_eq_some_iff.mpr denoted
    exact Command.parse_exchange found rfl verb arguments config
  case refusedMessage =>
    intro noInteger schema taken value other exchanges bytes written
    have blames := (schema.blames value "").map Builder.toBytes
    have conforms : schema.Conforms value :=
      (schema.faultsAt_eq_nil_iff value "").mp (blames.ok_iff.mp ⟨bytes, written⟩)
    exact vague noInteger (exchanges.denotes rfl conforms)
  case refusedCall =>
    intro noInteger verb arguments config long command done
    exact vague noInteger (Command.denotes_of_parse long rfl done)
  case errors =>
    intro noInteger
    have absent := missing noInteger
    exact ⟨fun range path => integerAt_of_none absent path, Command.readHandle_of_none absent,
      fun default => Command.readQueueSize_of_none absent rfl default⟩

/-- The last number before the bounds of a word is written as its integer.  The next one is
refused, though it is an integer and the word of the field could hold it. -/
theorem Binary64.integer_exact_bounds :
    IsInteger ⟨0x43dfffffffffffff⟩ (2 ^ 63 - 1024) ∧
      tickSchema.encode (.table [("data", .float ⟨0x43dfffffffffffff⟩)]) =
        tickSchema.encode (.table [("data", .int 0x7ffffffffffffc00)]) ∧
      IsInteger ⟨0x43e0000000000000⟩ (2 ^ 63) ∧
      (∀ bytes, tickSchema.encode (.table [("data", .float ⟨0x43e0000000000000⟩)]) ≠ .ok bytes) ∧
      ∀ command,
        Command.parse "shutdownPublisher" [.float ⟨0x43e0000000000000⟩] {} ≠ .ok command := by
  have last := integer_exact ⟨0x43dfffffffffffff⟩
  have next := integer_exact ⟨0x43e0000000000000⟩
  have denoted : IsInteger ⟨0x43dfffffffffffff⟩ (0x7ffffffffffffc00 : Int64).toInt :=
    (last.found _).mp (by decide +kernel)
  have absent := next.absent.mp (by decide +kernel)
  have noInteger (word : Int64) : ¬ IsInteger ⟨0x43e0000000000000⟩ word.toInt :=
    absent word.toInt word.le_toInt word.toInt_lt
  have place (given taken : Value) : (ElementType.message tickSchema).Exchanges given taken
      (.table [("data", given)]) (.table [("data", taken)]) := by
    apply @ElementType.Exchanges.field given taken tickSchema [] "data" given taken
    intro field member _
    obtain rfl := List.mem_singleton.mp member
    exact .single (.integer trivial)
  refine ⟨denoted, last.message _ denoted tickSchema _ _ (place _ _), ?_, ?_, ?_⟩
  · exact toInt?_eq_some_iff.mp (by decide +kernel)
  · exact next.refusedMessage noInteger tickSchema .nil _ _ (place _ _)
  · exact next.refusedCall noInteger .shutdownPublisher [.nil] {} (by decide)

end TopicBridge
