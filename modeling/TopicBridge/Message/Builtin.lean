import TopicBridge.Dict
import TopicBridge.Number.Power

/-!
# Builtin field types

The element types that a message definition may name without defining them.
-/

namespace TopicBridge.Message

/-- The width of an integer type. -/
inductive Width where
  | w8
  | w16
  | w32
  | w64
  deriving DecidableEq

/-- The number of bytes of a width. -/
def Width.bytes : Width → Nat
  | .w8 => 1
  | .w16 => 2
  | .w32 => 4
  | .w64 => 8

/-- A builtin field type.  Times count unsigned and durations signed seconds
and nanoseconds. -/
inductive Builtin where
  | bool
  | int (width : Width)
  | uint (width : Width)
  | float32
  | float64
  | string
  | time
  | duration
  deriving DecidableEq

namespace Builtin

/-- The builtin types under the names that definitions print them with. -/
def canonicalNames : Dict String Builtin :=
  [("bool", bool),
   ("int8", int .w8), ("uint8", uint .w8), ("int16", int .w16), ("uint16", uint .w16),
   ("int32", int .w32), ("uint32", uint .w32), ("int64", int .w64), ("uint64", uint .w64),
   ("float32", float32), ("float64", float64),
   ("string", string), ("time", time), ("duration", duration)]

/-- Older names that definitions may still use. -/
def olderNames : Dict String Builtin :=
  [("byte", int .w8), ("char", uint .w8)]

/-- The builtin type with a name. -/
def ofName? (name : String) : Option Builtin :=
  Dict.get? (canonicalNames ++ olderNames) name

/-- The name that definitions print a builtin type with. -/
def name : Builtin → String
  | bool => "bool"
  | int .w8 => "int8"
  | int .w16 => "int16"
  | int .w32 => "int32"
  | int .w64 => "int64"
  | uint .w8 => "uint8"
  | uint .w16 => "uint16"
  | uint .w32 => "uint32"
  | uint .w64 => "uint64"
  | float32 => "float32"
  | float64 => "float64"
  | string => "string"
  | time => "time"
  | duration => "duration"

/-- A builtin type is found under its printed name. -/
@[simp]
theorem ofName?_name (builtin : Builtin) : ofName? builtin.name = some builtin := by
  cases builtin with
  | int width => cases width <;> decide
  | uint width => cases width <;> decide
  | _ => decide

end Builtin

end TopicBridge.Message
