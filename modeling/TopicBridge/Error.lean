import TopicBridge.Handle
import TopicBridge.Message.Error
import TopicBridge.Script.Callback
import TopicBridge.Wire.Error

/-!
# Errors of the bridge

What a bridge operation or a script command may fail with, and the text that
scripts and users see.
-/

namespace TopicBridge

open Message

/-- The two kinds of proxy. -/
inductive ProxyKind where
  | publisher
  | subscriber
  deriving DecidableEq

/-- The name of a kind of proxy. -/
def ProxyKind.name : ProxyKind → String
  | publisher => "publisher"
  | subscriber => "subscriber"

/-- Why a bridge operation fails, or what is reported outside any operation. -/
inductive BridgeError where
  /-- A topic type is not registered. -/
  | unknownType (name : String)
  /-- No live proxy has the handle. -/
  | unknownHandle (handle : Handle)
  /-- The handle belongs to a proxy of the other kind. -/
  | wrongKind (handle : Handle) (expected actual : ProxyKind)
  /-- The messaging layer cannot be reached. -/
  | middlewareUnavailable (reason : String)
  /-- The topic is open with another message type. -/
  | topicConflict (topic existing requested : String)
  /-- A script has no such entry point. -/
  | invalidCallback (script : ScriptId) (name : String)
  /-- An inbound payload cannot be read. -/
  | unreadable (handle : Handle) (cause : WireError)
  /-- An outbound value cannot be written. -/
  | unwritable (cause : WireError)
  /-- The queue of pending invocations is full. -/
  | queueFull (handle : Handle)
  /-- A script callback failed on a message. -/
  | callbackFailed (handle : Handle) (message : String)
  /-- Every handle is out. -/
  | handlesExhausted
  /-- A script command was called with a bad argument. -/
  | invalidArgument (command reason : String)
  /-- No script command has the name. -/
  | unknownCommand (name : String)
  /-- A message definition is refused. -/
  | definition (cause : DefinitionError)
  deriving DecidableEq

namespace BridgeError

/-- The text of an error. -/
def message : BridgeError → String
  | unknownType name => "Unknown message type: " ++ name
  | unknownHandle handle => "Unknown handle: " ++ toString handle
  | wrongKind handle expected actual =>
      "Handle " ++ toString handle ++ " is a " ++ actual.name ++ ", expected a " ++ expected.name
  | middlewareUnavailable reason => "Middleware unavailable: " ++ reason
  | topicConflict topic existing requested =>
      "Topic " ++ topic ++ " already carries " ++ existing ++ ", cannot bind as " ++ requested
  | invalidCallback script name =>
      "Invalid callback: script " ++ toString script ++ " has no entry point '" ++ name ++ "'"
  | unreadable handle cause =>
      "Failed to decode message for handle " ++ toString handle ++ ": " ++ cause.message
  | unwritable cause => "Invalid message format: " ++ cause.message
  | queueFull handle => "Pending queue full, dropped message for handle " ++ toString handle
  | callbackFailed handle reason =>
      "Callback for handle " ++ toString handle ++ " failed: " ++ reason
  | handlesExhausted => "No more handles available"
  | invalidArgument command reason => command ++ ": " ++ reason
  | unknownCommand name => "Unknown command: " ++ name
  | definition cause => "Message definition error: " ++ cause.message

/-- The text of the error that an error wraps. -/
def cause? : BridgeError → Option String
  | unreadable _ cause => some cause.message
  | unwritable cause => some cause.message
  | definition cause => some cause.message
  | _ => none

end BridgeError

end TopicBridge
