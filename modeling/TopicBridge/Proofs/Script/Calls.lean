import Mathlib.Data.List.Forall2
import TopicBridge.Bridge.Commands
import TopicBridge.Proofs.Wire.Fault
import TopicBridge.Proofs.Wire.Reader

/-!
# Calls of commands

The forms that a call may take are listed here argument by argument, each with the
command that it stands for.  A call is accepted exactly if it has one of the forms, and
what it stands for does not depend on how a number is written, nor on whether an optional
argument is left out or nil.  A command that the limits on its parts admit can be written
down again.

Of the calls without a form, those of an unknown name are told apart from those of a
command with arguments that it does not take.
-/

namespace TopicBridge

theorem Value.Denotes.bounds {value : Value} {i : Int} (denotes : value.Denotes i) :
    -2 ^ 63 ≤ i ∧ i < 2 ^ 63 := by
  obtain ⟨word, _, rfl⟩ := Value.denotes_iff.mp denotes
  exact ⟨word.le_toInt, word.toInt_lt⟩

theorem Value.Denotes.unique {value : Value} {i j : Int} (first : value.Denotes i)
    (second : value.Denotes j) : i = j := by
  obtain ⟨word, found, rfl⟩ := Value.denotes_iff.mp first
  obtain ⟨_, same, rfl⟩ := Value.denotes_iff.mp second
  cases found.symm.trans same
  rfl

theorem Value.Denotes.isNil_eq_false {value : Value} {i : Int} (denotes : value.Denotes i) :
    value.isNil = false := by
  cases value with
  | nil => cases denotes
  | _ => rfl

namespace Command

/-! ## Forms -/

/-- The value is the number of a handle. -/
def IsHandle (value : Value) (handle : Handle) : Prop :=
  value.Denotes handle.index ∧ handle.index < 2 ^ 31

/-- The queue size that a call asks for, given what a script gets that asks for none. -/
inductive IsQueueSize (default : Nat) : Option Value → Nat → Prop
  | absent : IsQueueSize default none default
  | nil : IsQueueSize default (some .nil) default
  | given {value : Value} {size : Nat} (denotes : value.Denotes size) (positive : 1 ≤ size)
      (bounded : size < 2 ^ 63) : IsQueueSize default (some value) size

/-- Whether a call asks for the last message to be kept. -/
inductive IsLatch : Option Value → Bool → Prop
  | absent : IsLatch none false
  | nil : IsLatch (some .nil) false
  | given (latch : Bool) : IsLatch (some (.bool latch)) latch

/-- The value can stand for a message of some type. -/
inductive IsMessage : Value → Prop
  | table (entries : List (String × Value)) : IsMessage (.table entries)
  | empty : IsMessage (.array [])

/-- The call of a name with arguments stands for a command. -/
inductive Form (default : Nat) : String → List Value → Command → Prop
  | advertise {topic typeName : String} {rest : List Value} {queueSize : Nat} {latch : Bool}
      (named : topic ≠ "") (few : rest.length ≤ 2)
      (sized : IsQueueSize default rest[0]? queueSize) (latched : IsLatch rest[1]? latch) :
      Form default "advertise" (.string topic :: .string typeName :: rest)
        (.advertise topic typeName ⟨queueSize, latch⟩)
  | subscribe {topic typeName callback : String} {rest : List Value} {queueSize : Nat}
      (named : topic ≠ "") (few : rest.length ≤ 1)
      (sized : IsQueueSize default rest[0]? queueSize) :
      Form default "subscribe" (.string topic :: .string typeName :: .string callback :: rest)
        (.subscribe topic typeName callback ⟨queueSize⟩)
  | publish {value message : Value} {handle : Handle} (held : IsHandle value handle)
      (shaped : IsMessage message) :
      Form default "publish" [value, message] (.publish handle message)
  | shutdownPublisher {value : Value} {handle : Handle} (held : IsHandle value handle) :
      Form default "shutdownPublisher" [value] (.shutdownPublisher handle)
  | shutdownSubscriber {value : Value} {handle : Handle} (held : IsHandle value handle) :
      Form default "shutdownSubscriber" [value] (.shutdownSubscriber handle)

/-- The most arguments that a command takes. -/
def Verb.most : Verb → Nat
  | advertise => 4
  | subscribe => 4
  | publish => 2
  | shutdownPublisher => 1
  | shutdownSubscriber => 1

/-- The values are the same, or numbers for the same integer. -/
def SameArgument (value other : Value) : Prop :=
  value = other ∨ ∃ i, value.Denotes i ∧ other.Denotes i

/-- The arguments of a command, all of them written. -/
def render : Command → List Value
  | advertise topic typeName options =>
      [.string topic, .string typeName, .int (Int64.ofNat options.queueSize), .bool options.latch]
  | subscribe topic typeName callback options =>
      [.string topic, .string typeName, .string callback, .int (Int64.ofNat options.queueSize)]
  | publish handle message => [Bridge.handleValue handle, message]
  | shutdownPublisher handle => [Bridge.handleValue handle]
  | shutdownSubscriber handle => [Bridge.handleValue handle]

/-- The parts of the command are such as a call can ask for. -/
def WithinLimits : Command → Prop
  | advertise topic _ options =>
      topic ≠ "" ∧ 1 ≤ options.queueSize ∧ options.queueSize < 2 ^ 63
  | subscribe topic _ _ options =>
      topic ≠ "" ∧ 1 ≤ options.queueSize ∧ options.queueSize < 2 ^ 63
  | publish handle message => handle.index < 2 ^ 31 ∧ IsMessage message
  | shutdownPublisher handle => handle.index < 2 ^ 31
  | shutdownSubscriber handle => handle.index < 2 ^ 31

/-! ## Readers of single arguments -/

theorem checkCount_eq_ok_iff {arguments : List Value} {least most : Nat} {u : Unit} :
    checkCount arguments least most = .ok u ↔
      least ≤ arguments.length ∧ arguments.length ≤ most := by
  simp only [checkCount, Bool.or_eq_true, decide_eq_true_eq]
  split
  · simp only [reduceCtorEq, false_iff]
    omega
  · simp only [true_iff]
    omega

theorem readString_eq_ok_iff {parameter : Parameter} {value : Value} {text : String} :
    readString parameter value = .ok text ↔ value = .string text := by
  cases value <;> simp [readString, Value.asString?]

theorem readTopic_eq_ok_iff {value : Value} {topic : String} :
    readTopic value = .ok topic ↔ value = .string topic ∧ topic ≠ "" := by
  simp only [readTopic, bind_eq_ok_iff, readString_eq_ok_iff, String.isEmpty_iff]
  constructor
  · rintro ⟨text, rfl, named⟩
    split at named
    · cases named
    · rename_i nonempty
      cases named
      exact ⟨rfl, nonempty⟩
  · rintro ⟨rfl, nonempty⟩
    exact ⟨topic, rfl, if_neg nonempty⟩

theorem readHandle_eq_ok_iff {value : Value} {handle : Handle} :
    readHandle value = .ok handle ↔ IsHandle value handle := by
  have limit : handle.index < 2 ^ 31 ↔ handle.index ≤ Handle.maxIndex :=
    Nat.lt_iff_le_pred (by decide)
  rw [IsHandle, Value.denotes_iff, limit]
  unfold readHandle
  cases value.asInt? with
  | none => simp
  | some word =>
      simp only [Option.some.injEq, exists_eq_left']
      rw [← Handle.ofInt?_eq_some_iff]
      cases Handle.ofInt? word.toInt <;> simp

theorem readMessage_eq_ok_iff {value message : Value} :
    readMessage value = .ok message ↔ value = message ∧ IsMessage message := by
  constructor
  · intro read
    cases value with
    | table entries =>
        cases read
        exact ⟨rfl, .table entries⟩
    | array items =>
        cases items <;> cases read
        exact ⟨rfl, .empty⟩
    | _ => cases read
  · rintro ⟨rfl, shaped⟩
    cases shaped <;> rfl

theorem readQueueSize_given {default size : Nat} {value : Value} (given : value.isNil = false) :
    readQueueSize default value = .ok size ↔ value.Denotes size ∧ 1 ≤ size := by
  rw [Value.denotes_iff]
  unfold readQueueSize
  rw [given, if_neg Bool.false_ne_true]
  cases value.asInt? with
  | none => simp
  | some word =>
      simp only [Option.some.injEq, exists_eq_left']
      split
      · simp only [Except.ok.injEq]
        omega
      · simp only [reduceCtorEq, false_iff]
        omega

theorem readQueueSize_eq_ok_iff {default size : Nat} {given : Option Value} :
    readQueueSize default (given.getD .nil) = .ok size ↔ IsQueueSize default given size := by
  constructor
  · intro read
    cases given with
    | none =>
        cases read
        exact .absent
    | some value =>
        cases given : value.isNil with
        | true =>
            cases value <;> cases given
            cases read
            exact .nil
        | false =>
            obtain ⟨denotes, positive⟩ := (readQueueSize_given given).mp read
            have bounded := denotes.bounds.2
            exact .given denotes positive (by omega)
  · intro sized
    cases sized with
    | absent => rfl
    | nil => rfl
    | @given value size denotes positive _ =>
        exact (readQueueSize_given denotes.isNil_eq_false).mpr ⟨denotes, positive⟩

theorem readLatch_eq_ok_iff {given : Option Value} {latch : Bool} :
    readLatch (given.getD .nil) = .ok latch ↔ IsLatch given latch := by
  constructor
  · intro read
    cases given with
    | none =>
        cases read
        exact .absent
    | some value =>
        cases value <;> cases read
        · exact .nil
        · exact .given latch
  · intro latched
    cases latched <;> rfl

/-! ## Accepted calls -/

variable {default : Nat} {name : String} {arguments : List Value} {command : Command}

theorem Form.verb_name (form : Form default name arguments command) :
    command.verb.name = name := by
  cases form <;> rfl

theorem Form.read (form : Form default name arguments command) :
    read command.verb default arguments = .ok command := by
  cases form with
  | advertise named few sized latched =>
      simp only [Command.read, verb, bind_eq_ok_iff, checkCount_eq_ok_iff, readTopic_eq_ok_iff,
        readString_eq_ok_iff]
      exact ⟨(), ⟨Nat.le_add_left 2 _, Nat.add_le_add_right few 2⟩, _, ⟨rfl, named⟩, _, rfl,
        _, readQueueSize_eq_ok_iff.mpr sized, _, readLatch_eq_ok_iff.mpr latched, rfl⟩
  | subscribe named few sized =>
      simp only [Command.read, verb, bind_eq_ok_iff, checkCount_eq_ok_iff, readTopic_eq_ok_iff,
        readString_eq_ok_iff]
      exact ⟨(), ⟨Nat.le_add_left 3 _, Nat.add_le_add_right few 3⟩, _, ⟨rfl, named⟩, _, rfl, _, rfl,
        _, readQueueSize_eq_ok_iff.mpr sized, rfl⟩
  | publish held shaped =>
      simp only [Command.read, verb, bind_eq_ok_iff, checkCount_eq_ok_iff, readMessage_eq_ok_iff,
        readHandle_eq_ok_iff]
      exact ⟨(), ⟨Nat.le_refl _, Nat.le_refl _⟩, _, ⟨rfl, shaped⟩, _, held, rfl⟩
  | shutdownPublisher held =>
      simp only [Command.read, verb, bind_eq_ok_iff, checkCount_eq_ok_iff, readHandle_eq_ok_iff]
      exact ⟨(), ⟨Nat.le_refl _, Nat.le_refl _⟩, _, held, rfl⟩
  | shutdownSubscriber held =>
      simp only [Command.read, verb, bind_eq_ok_iff, checkCount_eq_ok_iff, readHandle_eq_ok_iff]
      exact ⟨(), ⟨Nat.le_refl _, Nat.le_refl _⟩, _, held, rfl⟩

/-- Arguments that are read are those of a form. -/
theorem form_of_read {verb : Verb}
    (done : Command.read verb default arguments = .ok command) :
    Form default verb.name arguments command := by
  -- Arguments are read by position.  Their number tells which of the positions are filled, and
  -- so takes the list apart.
  cases verb with
  | advertise =>
      simp only [Command.read, bind_eq_ok_iff, checkCount_eq_ok_iff, readTopic_eq_ok_iff,
        readString_eq_ok_iff] at done
      obtain ⟨_, ⟨least, most⟩, topic, ⟨first, named⟩, typeName, second, queueSize, sized, latch,
        latched, same⟩ := done
      cases same
      match arguments, least with
      | value :: other :: rest, _ =>
          obtain rfl : value = .string topic := first
          obtain rfl : other = .string typeName := second
          have few : rest.length + 2 ≤ 2 + 2 := most
          exact .advertise named (Nat.le_of_add_le_add_right few)
            (readQueueSize_eq_ok_iff.mp sized) (readLatch_eq_ok_iff.mp latched)
  | subscribe =>
      simp only [Command.read, bind_eq_ok_iff, checkCount_eq_ok_iff, readTopic_eq_ok_iff,
        readString_eq_ok_iff] at done
      obtain ⟨_, ⟨least, most⟩, topic, ⟨first, named⟩, typeName, second, callback, third,
        queueSize, sized, same⟩ := done
      cases same
      match arguments, least with
      | value :: other :: another :: rest, _ =>
          obtain rfl : value = .string topic := first
          obtain rfl : other = .string typeName := second
          obtain rfl : another = .string callback := third
          have few : rest.length + 3 ≤ 1 + 3 := most
          exact .subscribe named (Nat.le_of_add_le_add_right few)
            (readQueueSize_eq_ok_iff.mp sized)
  | publish =>
      simp only [Command.read, bind_eq_ok_iff, checkCount_eq_ok_iff, readMessage_eq_ok_iff,
        readHandle_eq_ok_iff] at done
      obtain ⟨_, ⟨least, most⟩, message, ⟨rfl, shaped⟩, handle, held, same⟩ := done
      cases same
      match arguments, least, most with
      | [_, _], _, _ => exact .publish held shaped
  | shutdownPublisher =>
      simp only [Command.read, bind_eq_ok_iff, checkCount_eq_ok_iff, readHandle_eq_ok_iff] at done
      obtain ⟨_, ⟨least, most⟩, handle, held, same⟩ := done
      cases same
      match arguments, least, most with
      | [_], _, _ => exact .shutdownPublisher held
  | shutdownSubscriber =>
      simp only [Command.read, bind_eq_ok_iff, checkCount_eq_ok_iff, readHandle_eq_ok_iff] at done
      obtain ⟨_, ⟨least, most⟩, handle, held, same⟩ := done
      cases same
      match arguments, least, most with
      | [_], _, _ => exact .shutdownSubscriber held

theorem Verb.ofName?_eq_some_iff {verb : Verb} :
    Verb.ofName? name = some verb ↔ verb.name = name := by
  constructor
  · intro found
    have named := List.find?_some found
    exact of_decide_eq_true named
  · rintro rfl
    cases verb <;> decide

theorem parse_eq_ok_iff {config : BridgeConfig} :
    parse name arguments config = .ok command ↔
      Form config.defaultQueueSize name arguments command := by
  constructor
  · intro done
    unfold parse at done
    split at done
    · cases done
    · rename_i verb found
      split at done
      · rename_i read
        cases done
        rw [← Verb.ofName?_eq_some_iff.mp found]
        exact form_of_read read
      · cases done
  · intro form
    unfold parse
    rw [Verb.ofName?_eq_some_iff.mpr form.verb_name]
    simp only [form.read]

/-- A call without a form is refused by its name, or by the arguments of its command. -/
theorem parse_eq_error {config : BridgeConfig}
    (formless : ∀ command, ¬ Form config.defaultQueueSize name arguments command) :
    (∀ verb : Verb, verb.name ≠ name) ∧
        parse name arguments config = .error (.unknownCommand name) ∨
      (∃ verb : Verb, verb.name = name) ∧ ∃ cause : ArgumentError,
        parse name arguments config = .error (.invalidArgument name cause.message) := by
  cases found : Verb.ofName? name with
  | none =>
      refine .inl ⟨fun verb named => ?_, ?_⟩
      · rw [Verb.ofName?_eq_some_iff.mpr named] at found
        cases found
      · simp only [parse, found]
  | some verb =>
      refine .inr ⟨⟨verb, Verb.ofName?_eq_some_iff.mp found⟩, ?_⟩
      cases done : Command.read verb config.defaultQueueSize arguments with
      | ok command =>
          have form := form_of_read done
          rw [Verb.ofName?_eq_some_iff.mp found] at form
          exact absurd form (formless command)
      | error cause => exact ⟨cause, by simp only [parse, found, done]⟩

/-! ## Other ways to write a call -/

theorem getD_append_nils (rest : List Value) (count n : Nat) :
    (rest ++ List.replicate count .nil)[n]?.getD .nil = rest[n]?.getD .nil := by
  rw [List.getElem?_append]
  split
  · rfl
  · rename_i beyond
    rw [List.getElem?_eq_none (Nat.le_of_not_lt beyond), List.getElem?_replicate]
    split <;> rfl

theorem IsQueueSize.append_nils {size n : Nat} {rest : List Value}
    (sized : IsQueueSize default rest[n]? size) (count : Nat) :
    IsQueueSize default (rest ++ List.replicate count .nil)[n]? size := by
  rwa [← readQueueSize_eq_ok_iff, getD_append_nils, readQueueSize_eq_ok_iff]

theorem IsLatch.append_nils {n : Nat} {rest : List Value} {latch : Bool}
    (latched : IsLatch rest[n]? latch) (count : Nat) :
    IsLatch (rest ++ List.replicate count .nil)[n]? latch := by
  rwa [← readLatch_eq_ok_iff, getD_append_nils, readLatch_eq_ok_iff]

/-- An optional argument may be nil as well as left out. -/
theorem Form.padded (form : Form default name arguments command) {count : Nat}
    (fits : arguments.length + count ≤ command.verb.most) :
    Form default name (arguments ++ List.replicate count .nil) command := by
  cases form with
  | @advertise topic typeName rest queueSize latch named few sized latched =>
      have fits : rest.length + 2 + count ≤ 4 := fits
      have few : (rest ++ List.replicate count Value.nil).length ≤ 2 := by
        rw [List.length_append, List.length_replicate]
        omega
      exact .advertise named few (sized.append_nils count) (latched.append_nils count)
  | @subscribe topic typeName callback rest queueSize named few sized =>
      have fits : rest.length + 3 + count ≤ 4 := fits
      have few : (rest ++ List.replicate count Value.nil).length ≤ 1 := by
        rw [List.length_append, List.length_replicate]
        omega
      exact .subscribe named few (sized.append_nils count)
  | publish held shaped =>
      obtain rfl : count = 0 := Nat.le_zero.mp (Nat.le_of_add_le_add_left fits)
      exact .publish held shaped
  | shutdownPublisher held =>
      obtain rfl : count = 0 := Nat.le_zero.mp (Nat.le_of_add_le_add_left fits)
      exact .shutdownPublisher held
  | shutdownSubscriber held =>
      obtain rfl : count = 0 := Nat.le_zero.mp (Nat.le_of_add_le_add_left fits)
      exact .shutdownSubscriber held

namespace SameArgument

variable {value other : Value}

theorem denotes (same : SameArgument value other) {i : Int} (denotes : value.Denotes i) :
    other.Denotes i := by
  obtain rfl | ⟨j, number, otherNumber⟩ := same
  · exact denotes
  · rwa [denotes.unique number]

theorem eq_of_asInt?_eq_none (same : SameArgument value other) (plain : value.asInt? = none) :
    other = value := by
  obtain rfl | ⟨i, number, _⟩ := same
  · rfl
  · obtain ⟨word, found, _⟩ := Value.denotes_iff.mp number
    rw [plain] at found
    cases found

theorem isHandle (same : SameArgument value other) {handle : Handle}
    (held : IsHandle value handle) : IsHandle other handle :=
  ⟨same.denotes held.1, held.2⟩

theorem isQueueSize {given another : Option Value} (same : Option.Rel SameArgument given another)
    {size : Nat} (sized : IsQueueSize default given size) :
    IsQueueSize default another size := by
  cases same with
  | none => exact sized
  | some same =>
      cases sized with
      | nil =>
          rw [same.eq_of_asInt?_eq_none rfl]
          exact .nil
      | given denotes positive bounded => exact .given (same.denotes denotes) positive bounded

theorem isLatch {given another : Option Value} (same : Option.Rel SameArgument given another)
    {latch : Bool} (latched : IsLatch given latch) : IsLatch another latch := by
  cases same with
  | none => exact latched
  | some same =>
      cases latched with
      | nil =>
          rw [same.eq_of_asInt?_eq_none rfl]
          exact .nil
      | given =>
          rw [same.eq_of_asInt?_eq_none rfl]
          exact .given latch

theorem isMessage (same : SameArgument value other) (shaped : IsMessage value) :
    other = value := by
  cases shaped with
  | table => exact same.eq_of_asInt?_eq_none rfl
  | empty => exact same.eq_of_asInt?_eq_none rfl

end SameArgument

theorem getElem?_rel {α β : Type} {R : α → β → Prop} {items : List α} {others : List β}
    (related : List.Forall₂ R items others) (n : Nat) :
    Option.Rel R items[n]? others[n]? := by
  induction related generalizing n with
  | nil => exact .none
  | cons head _ inductionHypothesis =>
      cases n with
      | zero => exact .some head
      | succ n => exact inductionHypothesis n

/-- A number may be written in either kind. -/
theorem Form.rewritten {others : List Value} (form : Form default name arguments command)
    (related : List.Forall₂ SameArgument arguments others) : Form default name others command := by
  cases form with
  | advertise named few sized latched =>
      obtain _ | ⟨topic, _ | ⟨typeName, rest⟩⟩ := related
      rw [topic.eq_of_asInt?_eq_none rfl, typeName.eq_of_asInt?_eq_none rfl]
      exact .advertise named (rest.length_eq ▸ few)
        (SameArgument.isQueueSize (getElem?_rel rest 0) sized)
        (SameArgument.isLatch (getElem?_rel rest 1) latched)
  | subscribe named few sized =>
      obtain _ | ⟨topic, _ | ⟨typeName, _ | ⟨callback, rest⟩⟩⟩ := related
      rw [topic.eq_of_asInt?_eq_none rfl, typeName.eq_of_asInt?_eq_none rfl,
        callback.eq_of_asInt?_eq_none rfl]
      exact .subscribe named (rest.length_eq ▸ few)
        (SameArgument.isQueueSize (getElem?_rel rest 0) sized)
  | publish held shaped =>
      obtain _ | ⟨handle, _ | ⟨message, _ | _⟩⟩ := related
      rw [message.isMessage shaped]
      exact .publish (handle.isHandle held) shaped
  | shutdownPublisher held =>
      obtain _ | ⟨handle, _ | _⟩ := related
      exact .shutdownPublisher (handle.isHandle held)
  | shutdownSubscriber held =>
      obtain _ | ⟨handle, _ | _⟩ := related
      exact .shutdownSubscriber (handle.isHandle held)

theorem isHandle_handleValue {handle : Handle} (bounded : handle.index < 2 ^ 31) :
    IsHandle (Bridge.handleValue handle) handle :=
  ⟨Int64.toInt_ofNat_of_lt (by omega), bounded⟩

/-- A command can be written down exactly if its parts are within the limits. -/
theorem form_render_iff :
    Form default command.verb.name command.render command ↔ command.WithinLimits := by
  constructor
  · intro form
    generalize command.verb.name = name at form
    cases command with
    | advertise topic typeName options =>
        obtain ⟨named, _, sized, _⟩ := form
        cases sized with
        | given _ positive bounded => exact ⟨named, positive, bounded⟩
    | subscribe topic typeName callback options =>
        obtain _ | ⟨named, _, sized⟩ := form
        cases sized with
        | given _ positive bounded => exact ⟨named, positive, bounded⟩
    | publish handle message =>
        obtain _ | _ | ⟨held, shaped⟩ := form
        exact ⟨held.2, shaped⟩
    | shutdownPublisher handle =>
        obtain _ | _ | _ | held := form
        exact held.2
    | shutdownSubscriber handle =>
        obtain _ | _ | _ | _ | held := form
        exact held.2
  · intro limited
    cases command with
    | advertise topic typeName options =>
        obtain ⟨named, positive, bounded⟩ := limited
        exact .advertise named (by simp)
          (.given (Int64.toInt_ofNat_of_lt bounded) positive bounded) (.given _)
    | subscribe topic typeName callback options =>
        obtain ⟨named, positive, bounded⟩ := limited
        exact .subscribe named (by simp)
          (.given (Int64.toInt_ofNat_of_lt bounded) positive bounded)
    | publish handle message =>
        obtain ⟨bounded, shaped⟩ := limited
        exact .publish (isHandle_handleValue bounded) shaped
    | shutdownPublisher handle => exact .shutdownPublisher (isHandle_handleValue limited)
    | shutdownSubscriber handle => exact .shutdownSubscriber (isHandle_handleValue limited)

/-! ## Every call -/

/-- What comes of a call. -/
structure Exact (config : BridgeConfig) (name : String) (arguments : List Value) : Prop where
  /-- It is accepted exactly if it has a form, as the command that the form stands for. -/
  accepted : ∀ command, parse name arguments config = .ok command ↔
    Form config.defaultQueueSize name arguments command
  /-- It is accepted under the name of the command only. -/
  named : ∀ command, parse name arguments config = .ok command → command.verb.name = name
  /-- An accepted call may have nil for optional arguments that it leaves out. -/
  padded : ∀ command count, parse name arguments config = .ok command →
    arguments.length + count ≤ command.verb.most →
      parse name (arguments ++ List.replicate count .nil) config = .ok command
  /-- An accepted call may have its numbers in the other kind. -/
  rewritten : ∀ command others, parse name arguments config = .ok command →
    List.Forall₂ SameArgument arguments others → parse name others config = .ok command
  /-- A call without a form is refused by its name if no command has that name, and by its
  arguments otherwise. -/
  refused : (∀ command, ¬ Form config.defaultQueueSize name arguments command) →
    (∀ verb : Verb, verb.name ≠ name) ∧
        parse name arguments config = .error (.unknownCommand name) ∨
      (∃ verb : Verb, verb.name = name) ∧ ∃ cause : ArgumentError,
        parse name arguments config = .error (.invalidArgument name cause.message)

/-- Every call is accepted by its form or refused, and the commands within the limits are
those that can be written down. -/
theorem parse_exact (config : BridgeConfig) :
    (∀ name arguments, Exact config name arguments) ∧
      ∀ command, parse command.verb.name command.render config = .ok command ↔
        command.WithinLimits := by
  refine ⟨fun name arguments => ?_, fun command => ?_⟩
  · constructor
    case accepted => exact fun _ => parse_eq_ok_iff
    case named => exact fun _ done => (parse_eq_ok_iff.mp done).verb_name
    case padded =>
      exact fun _ _ done fits => parse_eq_ok_iff.mpr ((parse_eq_ok_iff.mp done).padded fits)
    case rewritten =>
      exact fun _ _ done same => parse_eq_ok_iff.mpr ((parse_eq_ok_iff.mp done).rewritten same)
    case refused => exact parse_eq_error
  · rw [parse_eq_ok_iff, form_render_iff]

/-- A call without a form need not have an unknown name: here the type is left out. -/
theorem not_unknownCommand_typeLeftOut :
    (∀ command, ¬ Form ({} : BridgeConfig).defaultQueueSize "advertise" [.string "/x"] command) ∧
      ∀ unknown, parse "advertise" [.string "/x"] {} ≠ .error (.unknownCommand unknown) := by
  have refused : parse "advertise" [.string "/x"] {} =
      .error (.invalidArgument "advertise" (ArgumentError.count 2 4 1).message) := rfl
  constructor
  · intro command form
    rw [← parse_eq_ok_iff, refused] at form
    cases form
  · intro unknown same
    rw [refused] at same
    cases same

end Command

end TopicBridge
