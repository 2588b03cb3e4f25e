import TopicBridge.Bridge.Config
import TopicBridge.Error
import TopicBridge.Middleware.Options

/-!
# Script commands

A script reaches the bridge through five commands.

* `advertise` takes a topic and a type, then a queue size and whether to latch.
* `subscribe` takes a topic, a type and a callback name, then a queue size.
* `publish` takes a handle and a message.
* `shutdownPublisher` and `shutdownSubscriber` take a handle.

What stands after "then" may be left out or nil.  A command is read completely
before anything happens, so a bad call has no effect.
-/

namespace TopicBridge

/-- A checked command call. -/
inductive Command where
  | advertise (topic typeName : String) (options : AdvertiseOptions)
  | subscribe (topic typeName callback : String) (options : SubscribeOptions)
  | publish (handle : Handle) (message : Value)
  | shutdownPublisher (handle : Handle)
  | shutdownSubscriber (handle : Handle)

namespace Command

/-- The commands, without their arguments. -/
inductive Verb where
  | advertise
  | subscribe
  | publish
  | shutdownPublisher
  | shutdownSubscriber
  deriving DecidableEq

/-- The name by which scripts call a command. -/
def Verb.name : Verb → String
  | advertise => "advertise"
  | subscribe => "subscribe"
  | publish => "publish"
  | shutdownPublisher => "shutdownPublisher"
  | shutdownSubscriber => "shutdownSubscriber"

/-- Every command once. -/
def Verb.all : List Verb :=
  [.advertise, .subscribe, .publish, .shutdownPublisher, .shutdownSubscriber]

/-- The command with a name. -/
def Verb.ofName? (name : String) : Option Verb :=
  Verb.all.find? fun verb => verb.name = name

/-- The command of a call. -/
def verb : Command → Verb
  | advertise .. => .advertise
  | subscribe .. => .subscribe
  | publish .. => .publish
  | shutdownPublisher _ => .shutdownPublisher
  | shutdownSubscriber _ => .shutdownSubscriber

/-- What an argument is for. -/
inductive Parameter where
  | topic
  | type
  | callback
  | queueSize
  | latch
  | handle
  | message
  deriving DecidableEq

/-- The name of a parameter. -/
def Parameter.name : Parameter → String
  | topic => "topic"
  | type => "type"
  | callback => "callback"
  | queueSize => "queueSize"
  | latch => "latch"
  | handle => "handle"
  | message => "message"

/-- Why the arguments of a call are refused. -/
inductive ArgumentError where
  /-- There are too few or too many arguments. -/
  | count (least most actual : Nat)
  /-- An argument has the wrong kind. -/
  | kind (parameter : Parameter) (expected actual : Value.Kind)
  /-- The topic has no name. -/
  | emptyTopic
  /-- No handle has the number. -/
  | badHandle (i : Int)
  /-- A queue size is less than one. -/
  | queueSizeNotPositive (i : Int)
  deriving DecidableEq

/-- A kind with the article before it. -/
def kindPhrase (kind : Value.Kind) : String :=
  match kind with
  | .integer | .array => "an " ++ kind.name
  | _ => "a " ++ kind.name

/-- The text of an error. -/
def ArgumentError.message : ArgumentError → String
  | count least most actual =>
      "expected " ++ (if least = most then toString least
        else toString least ++ " to " ++ toString most) ++
        " arguments, got " ++ toString actual
  | kind parameter expected actual =>
      parameter.name ++ " must be " ++ kindPhrase expected ++ ", got " ++ actual.name
  | emptyTopic => "topic must not be empty"
  | badHandle i => "invalid handle " ++ toString i
  | queueSizeNotPositive i => "queueSize must be positive, got " ++ toString i

/-- The argument at a position.  One that is left out is nil. -/
def argument (arguments : List Value) (position : Nat) : Value :=
  arguments.getD position .nil

/-- Check the number of arguments. -/
def checkCount (arguments : List Value) (least most : Nat) : Except ArgumentError Unit :=
  if arguments.length < least || most < arguments.length then
    .error (.count least most arguments.length)
  else .ok ()

/-- Read a string. -/
def readString (parameter : Parameter) (value : Value) : Except ArgumentError String :=
  match value.asString? with
  | some text => .ok text
  | none => .error (.kind parameter .string value.kind)

/-- Read a topic, which must have a name. -/
def readTopic (value : Value) : Except ArgumentError String := do
  let topic ← readString .topic value
  if topic.isEmpty then .error .emptyTopic else return topic

/-- Read a handle. -/
def readHandle (value : Value) : Except ArgumentError Handle :=
  match value.asInt? with
  | none => .error (.kind .handle .integer value.kind)
  | some i =>
      match Handle.ofInt? i.toInt with
      | some handle => .ok handle
      | none => .error (.badHandle i.toInt)

/-- Read a queue size, which must be positive. -/
def readQueueSize (default : Nat) (value : Value) : Except ArgumentError Nat :=
  if value.isNil then .ok default
  else match value.asInt? with
    | none => .error (.kind .queueSize .integer value.kind)
    | some i => if 1 ≤ i.toInt then .ok i.toInt.toNat else .error (.queueSizeNotPositive i.toInt)

/-- Read whether to latch. -/
def readLatch (value : Value) : Except ArgumentError Bool :=
  if value.isNil then .ok false
  else match value.asBool? with
    | none => .error (.kind .latch .boolean value.kind)
    | some latch => .ok latch

/-- Read a message: a table, or an empty array, which scripts cannot tell from
an empty table. -/
def readMessage (value : Value) : Except ArgumentError Value :=
  match Value.entries? (some value) with
  | some _ => .ok value
  | none => .error (.kind .message .table value.kind)

/-- Read the arguments of a command.  The first check that fails decides the
error, and `publish` checks its message before its handle. -/
def read (verb : Verb) (defaultQueueSize : Nat) (arguments : List Value) :
    Except ArgumentError Command :=
  let nth := argument arguments
  match verb with
  | .advertise => do
      checkCount arguments 2 4
      let topic ← readTopic (nth 0)
      let typeName ← readString .type (nth 1)
      let queueSize ← readQueueSize defaultQueueSize (nth 2)
      let latch ← readLatch (nth 3)
      return .advertise topic typeName ⟨queueSize, latch⟩
  | .subscribe => do
      checkCount arguments 3 4
      let topic ← readTopic (nth 0)
      let typeName ← readString .type (nth 1)
      let callback ← readString .callback (nth 2)
      let queueSize ← readQueueSize defaultQueueSize (nth 3)
      return .subscribe topic typeName callback ⟨queueSize⟩
  | .publish => do
      checkCount arguments 2 2
      let message ← readMessage (nth 1)
      let handle ← readHandle (nth 0)
      return .publish handle message
  | .shutdownPublisher => do
      checkCount arguments 1 1
      return .shutdownPublisher (← readHandle (nth 0))
  | .shutdownSubscriber => do
      checkCount arguments 1 1
      return .shutdownSubscriber (← readHandle (nth 0))

/-- Read a command call. -/
def parse (name : String) (arguments : List Value) (config : BridgeConfig) :
    Except BridgeError Command :=
  match Verb.ofName? name with
  | none => .error (.unknownCommand name)
  | some verb =>
      match read verb config.defaultQueueSize arguments with
      | .ok command => .ok command
      | .error e => .error (.invalidArgument name e.message)

end Command

end TopicBridge
