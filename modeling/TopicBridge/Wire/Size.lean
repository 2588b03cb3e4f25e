import TopicBridge.Schema

/-!
# Least wire sizes

Every element of a type takes at least a fixed number of bytes.  The reader
uses this number to refuse an array count that the rest of a payload cannot
hold, before it reads any element.  Sizes saturate at the largest 64-bit word.
-/

namespace TopicBridge

open Message

/-- The largest size that is told apart. -/
def maxSize : Nat := 2 ^ 64 - 1

/-- A size, or the largest one in place of a larger one. -/
def saturate (size : Nat) : Nat :=
  min size maxSize

/-- The bytes that a builtin element takes: all of them, but for a string only
its length word. -/
def Message.Builtin.leastSize : Builtin → Nat
  | .bool => 1
  | .int width => width.bytes
  | .uint width => width.bytes
  | .float32 => 4
  | .float64 => 8
  | .string => 4
  | .time => 8
  | .duration => 8

mutual

/-- The least number of bytes that an element takes. -/
def ElementType.leastSize : ElementType → Nat
  | .builtin b => b.leastSize
  | .message schema => schema.leastSize
termination_by structural type => type

/-- The least number of bytes that a message takes. -/
def Schema.leastSize : Schema → Nat
  | ⟨_, fields, _⟩ => leastSizes fields
termination_by structural schema => schema

/-- The least number of bytes that fields take together. -/
def leastSizes : List Field → Nat
  | [] => 0
  | field :: rest => saturate (field.leastSize + leastSizes rest)
termination_by structural fields => fields

/-- The least number of bytes that a field takes.  An array of any length may
be empty, so it needs its count word alone. -/
def Field.leastSize : Field → Nat
  | ⟨_, type, .single⟩ => type.leastSize
  | ⟨_, _, .sequence⟩ => 4
  | ⟨_, type, .fixed length⟩ => saturate (length * type.leastSize)
termination_by structural field => field

end

/-- The most elements that an array may hold whose elements take no bytes. -/
def maxEmptyElements : Nat := 2 ^ 16

end TopicBridge
