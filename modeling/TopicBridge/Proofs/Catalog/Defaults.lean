import TopicBridge.Proofs.Catalog.Obtainable
import TopicBridge.Proofs.Wire.Filled

/-!
# Defaults of registered types

The default of a message is known in three places: to the writer, which fills in
what a value leaves out, to the reader, which finds it in the bytes, and as a value
of its own.  For a registered type the three are the same.
-/

namespace TopicBridge

open Message Wire

/-- One default that is filled in leaves the bytes of a message as they are. -/
theorem Schema.encode_of_fills {schema : Schema} (distinct : schema.NamesDistinct)
    {value fuller : Value} {bytes : Bytes} (encoded : schema.encode value = .ok bytes)
    (fills : (ElementType.message schema).Fills value fuller) :
    schema.encode fuller = .ok bytes := by
  obtain ⟨builder, written, same⟩ := map_eq_ok_iff.mp encoded
  obtain ⟨other, again, sameBytes⟩ := fills.writes distinct "" bytes ⟨builder, written, same⟩
  exact map_eq_ok_iff.mpr ⟨other, again, sameBytes⟩

/-- The default of a message of a registered type can be left out or spelled out, with
the same bytes, which are read as the default.  A default that a value leaves out
anywhere may be filled in: the message keeps its bytes. -/
theorem Schema.defaults_agree {schema : Schema} (obtainable : schema.Obtainable) :
    (∃ bytes, schema.encode (.table []) = .ok bytes ∧ schema.encode (.array []) = .ok bytes ∧
      schema.encode schema.default = .ok bytes ∧ schema.decode bytes = .ok schema.default) ∧
    ∀ value filled bytes, schema.encode value = .ok bytes → schema.Filled value filled →
      schema.encode filled = .ok bytes := by
  have distinct := obtainable.namesDistinct
  constructor
  · obtain ⟨bytes, table, array, spelled⟩ := Schema.encode_default distinct
    have read := (Schema.decode_encode obtainable array).1
    rw [schema.normal_empty] at read
    exact ⟨bytes, table, array, spelled, read⟩
  · intro value filled bytes encoded steps
    induction steps with
    | refl => exact encoded
    | tail _ step ih => exact Schema.encode_of_fills distinct ih step

/-- The first point of the rough path, with the time that it leaves out. -/
def timedPoint : Value :=
  .table [("x", .float ⟨0x3fb999999999999a⟩), ("at", .stamp 0 0)]

/-- The rough path with the time of its first point. -/
def timedPath : Value :=
  .table
    [("count", .float ⟨0x4008000000000000⟩),
     ("points", .array [timedPoint]),
     ("raw", .string "hi"),
     ("ok", .int 3)]

/-- The rough path with the time of its first point and with its second point. -/
def filledPath : Value :=
  .table
    [("count", .float ⟨0x4008000000000000⟩),
     ("points", .array [timedPoint, .table [("x", .float .zero), ("at", .stamp 0 0)]]),
     ("raw", .string "hi"),
     ("ok", .int 3)]

theorem roughPath_filled : pathSchema.Filled roughPath filledPath := by
  have time : Field.Fills ⟨"points", .message pointSchema, .fixed 2⟩
      (.array ([] ++ .table [("x", .float ⟨0x3fb999999999999a⟩)] :: []))
      (.array ([] ++ timedPoint :: [])) := by
    apply Field.Fills.item Shape.noConfusion
    exact @ElementType.Fills.missing (.message pointSchema) _ _
      [("x", .float ⟨0x3fb999999999999a⟩)] "at" rfl rfl rfl
  have point : Field.Fills ⟨"points", .message pointSchema, .fixed 2⟩ (.array [timedPoint])
      (.array ([timedPoint] ++ List.replicate 1 pointSchema.default)) :=
    Field.Fills.lengthened (Nat.le_refl 2)
  have first : (ElementType.message pathSchema).Fills roughPath timedPath :=
    @ElementType.Fills.within pathSchema _ _ _ _ List.mem_cons_self rfl time
  have second : (ElementType.message pathSchema).Fills timedPath filledPath :=
    @ElementType.Fills.within pathSchema _ _ _ _ List.mem_cons_self rfl point
  exact Relation.ReflTransGen.tail (Relation.ReflTransGen.single first) second

theorem Schema.defaults_agree_filledPath :
    pathSchema.Obtainable ∧
      pathSchema.encode filledPath =
        .ok [0xcd, 0xcc, 0xcc, 0x3d, 0, 0, 0, 0, 0, 0, 0, 0, 0, 0, 0, 0, 0, 0, 0, 0, 0, 0, 0, 0,
          2, 0, 0, 0, 104, 105, 1, 3, 0] := by
  have encoded : pathSchema.encode roughPath =
      .ok [0xcd, 0xcc, 0xcc, 0x3d, 0, 0, 0, 0, 0, 0, 0, 0, 0, 0, 0, 0, 0, 0, 0, 0, 0, 0, 0, 0,
        2, 0, 0, 0, 104, 105, 1, 3, 0] :=
    toOption_eq_some_iff.mp (by decide +kernel)
  exact ⟨pathSchema_obtainable,
    (Schema.defaults_agree pathSchema_obtainable).2 _ _ _ encoded roughPath_filled⟩

end TopicBridge
