import TopicBridge.Dict
import TopicBridge.Number.Binary

/-!
# Script values

Values that a script exchanges with the bridge.  A script sees a message as a
table keyed by field name.  Scripts often carry every number as a
double-precision number, so an integral one is accepted where an integer is
wanted, and an integer where a number is wanted; a conversion to an integer is
exact or does not happen.
-/

namespace TopicBridge

/-- A value passed to or returned from a script.  The entries of a table are a
dictionary: their order carries no meaning. -/
inductive Value where
  | nil
  | bool (b : Bool)
  | int (i : Int64)
  | float (x : Binary64)
  | string (s : String)
  | array (items : List Value)
  | table (entries : List (String × Value))
  deriving Inhabited

namespace Value

/-- The kinds of value that a script tells apart. -/
inductive Kind where
  | nil
  | boolean
  | integer
  | number
  | string
  | array
  | table
  deriving DecidableEq, Inhabited

/-- The name of a kind, as a script sees it. -/
def Kind.name : Kind → String
  | .nil => "nil"
  | .boolean => "boolean"
  | .integer => "integer"
  | .number => "number"
  | .string => "string"
  | .array => "array"
  | .table => "table"

/-- Every kind once. -/
def Kind.all : List Kind :=
  [.nil, .boolean, .integer, .number, .string, .array, .table]

/-- The kind with a name. -/
def Kind.ofName? (name : String) : Option Kind :=
  Kind.all.find? fun kind => kind.name = name

/-- The kind of a value. -/
def kind : Value → Kind
  | nil => .nil
  | bool _ => .boolean
  | int _ => .integer
  | float _ => .number
  | string _ => .string
  | array _ => .array
  | table _ => .table

/-- The value is absent. -/
def isNil : Value → Bool
  | nil => true
  | _ => false

/-- The text of a string. -/
def asString? : Value → Option String
  | string s => some s
  | _ => none

/-- The truth value of a boolean. -/
def asBool? : Value → Option Bool
  | bool b => some b
  | _ => none

/-- The integer of a word, if the word can hold it. -/
def wordOfInt? (i : Int) : Option Int64 :=
  if -2 ^ 63 ≤ i ∧ i < 2 ^ 63 then some (Int64.ofInt i) else none

/-- The integer that a number denotes: an integer itself, or a floating-point
number that is finite, integral and within the range of a word. -/
def asInt? : Value → Option Int64
  | int i => some i
  | float x => x.toInt?.bind wordOfInt?
  | _ => none

/-- The floating-point number nearest to a number. -/
def asFloat? : Value → Option Binary64
  | float x => some x
  | int i => some (Binary64.ofInt i.toInt)
  | _ => none

/-- The items of an array. -/
def asArray? : Value → Option (List Value)
  | array items => some items
  | _ => none

/-- The entries of a table. -/
def asTable? : Value → Option (Dict String Value)
  | table entries => some entries
  | _ => none

/-- The value under a key of a table. -/
def get? (value : Value) (key : String) : Option Value :=
  value.asTable?.bind fun entries => Dict.get? entries key

/-- The number under a key of a table. -/
def getFloat? (value : Value) (key : String) : Option Binary64 :=
  (value.get? key).bind asFloat?

/-- The text under a key of a table. -/
def getString? (value : Value) (key : String) : Option String :=
  (value.get? key).bind asString?

/-- A table with one more entry, or any other value as it is. -/
def set (value : Value) (key : String) (entry : Value) : Value :=
  match value with
  | table entries => table (Dict.insert entries key entry)
  | other => other

/-- The entries that stand for a message or a time stamp.  Scripts cannot tell
an empty table from an empty array, so either is a table without entries, and
so is an absent value. -/
def entries? : Option Value → Option (Dict String Value)
  | none => some []
  | some (table entries) => some entries
  | some (array []) => some []
  | some _ => none

mutual

/-- Equality of values.  Numbers compare numerically and only within their own
kind, and tables compare entry by entry in any order. -/
def same : Value → Value → Bool
  | nil, other => other.isNil
  | bool b, other => other.asBool? == some b
  | int i, other =>
      match other with
      | int j => i == j
      | _ => false
  | float x, other =>
      match other with
      | float y => x.numericEq y
      | _ => false
  | string s, other => other.asString? == some s
  | array items, other =>
      match other with
      | array others => sameItems items others
      | _ => false
  | table entries, other =>
      match other with
      | table others => entries.length == others.length && sameEntries entries others
      | _ => false
termination_by structural value => value

/-- The items are equal one by one. -/
def sameItems : List Value → List Value → Bool
  | [], others => others.isEmpty
  | item :: rest, others =>
      match others with
      | [] => false
      | other :: later => same item other && sameItems rest later
termination_by structural items => items

/-- Every entry has an equal one among the others. -/
def sameEntries : List (String × Value) → List (String × Value) → Bool
  | [], _ => true
  | entry :: rest, others => sameEntry entry others && sameEntries rest others
termination_by structural entries => entries

/-- The key of an entry has an equal value among the others. -/
def sameEntry : String × Value → List (String × Value) → Bool
  | (key, value), others =>
      match Dict.get? others key with
      | some other => same value other
      | none => false
termination_by structural entry => entry

end

/-- An integer within the range of a word is kept exactly. -/
theorem wordOfInt?_eq_some_iff {i : Int} {word : Int64} :
    wordOfInt? i = some word ↔ word.toInt = i := by
  unfold wordOfInt?
  have low := word.le_toInt
  have high := word.toInt_lt
  constructor
  · intro h
    split at h
    · rename_i bounds
      cases h
      exact Int64.toInt_ofInt_of_le bounds.1 bounds.2
    · cases h
  · rintro rfl
    rw [if_pos ⟨low, high⟩]
    simp

end Value

end TopicBridge
