/-!
# Scripts and their callbacks
-/

namespace TopicBridge

/-- A script context of the simulator. -/
structure ScriptId where
  number : Int
  deriving DecidableEq, Inhabited

instance : ToString ScriptId where
  toString script := toString script.number

/-- A function of a script that messages can be delivered to. -/
structure Callback where
  script : ScriptId
  name : String
  deriving DecidableEq, Inhabited

instance : ToString Callback where
  toString callback := toString callback.script ++ ":" ++ callback.name

end TopicBridge
