import TopicBridge.Proofs.Catalog.Resend
import TopicBridge.Proofs.Wire.Blame

/-!
# What a type refuses

A message type takes the values that conform to it, and of any other value it reports
the first fault.
-/

namespace TopicBridge

open Message Number Wire

/-- The values that are written are those that conform, and the error for any other one
is its first fault. -/
theorem Schema.encode_verdict (schema : Schema) (value : Value) :
    ((∃ bytes, schema.encode value = .ok bytes) ↔ schema.Conforms value) ∧
      ∀ e, schema.encode value = .error e ↔ (schema.faults value).head? = some e := by
  have blames : Blames (schema.encode value) (schema.faults value) :=
    (schema.blames value "").map Builder.toBytes
  constructor
  · rw [blames.ok_iff]
    exact schema.faultsAt_eq_nil_iff value ""
  · intro e
    exact blames.error_iff

/-- Of five faults the unknown key is the one to be blamed. -/
example :
    pathSchema.faults (.table
      [("count", .int (-1)), ("points", .array [.table [("x", .string "far")], .nil, .array []]),
       ("flag", .bool true)]) =
      [.unexpectedField "flag", .arrayLength "points" 2 3, .typeMismatch "points.x" .number,
       .typeMismatch "points" .table, .outOfRange "count"] := by
  decide +kernel

/-- An integral number within the range of its field is refused, if no script integer
holds it. -/
theorem Schema.encode_verdict_large :
    tickSchema.Obtainable ∧ Binary64.toInt? ⟨0x43e0000000000000⟩ = some (2 ^ 63) ∧
      (unsignedRange .w64).low ≤ 2 ^ 63 ∧ 2 ^ 63 < (unsignedRange .w64).high ∧
      tickSchema.encode (.table [("data", .float ⟨0x43e0000000000000⟩)]) =
        .error (.typeMismatch "data" .integer) := by
  have refused (value : Value) (absent : value.asInt? = none) :
      tickSchema.encode (.table [("data", value)]) = .error (.typeMismatch "data" .integer) := by
    have failed : encodeBuiltin (.uint .w64) (some value) "data" =
        .error (.typeMismatch "data" .integer) := by
      rw [encodeBuiltin, integerAt_of_none absent]
      rfl
    change (((encodeBuiltin (.uint .w64) (some value) "data").map Builder.chunk >>= _).map _ :
      Except WireError Bytes) = _
    rw [failed]
    rfl
  refine ⟨⟨_, "demo/Tick", "uint64 data", _, Catalog.Built.empty, rfl⟩, ?_, ?_, ?_, ?_⟩
  · decide +kernel
  · decide
  · decide
  · exact refused _ (by decide +kernel)

end TopicBridge
