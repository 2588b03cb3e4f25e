import TopicBridge.Proofs.Catalog.Obtainable
import TopicBridge.Proofs.Wire.Resend

/-!
# Sending on what was received

Whatever a registered type reads from a payload, it can write again, and what it
writes is read as the same value: it is the payload with every truth value above
one and every signaling NaN in canonical form.  The exceptions are unsigned words
from `2 ^ 63` on.  A message with such a word cannot be sent on, and the error
names the first field that has one.
-/

namespace TopicBridge

open Message Wire

/-- A message of a registered type that was read is made of pieces.  The
canonical pieces are read as the same message.  It is written as these, or else
the error is that of the first piece that no script integer holds. -/
theorem Schema.encode_of_decode {schema : Schema} (obtainable : schema.Obtainable)
    {received : Bytes} {value : Value} (decoded : schema.decode received = .ok value) :
    ∃ pieces, schema.Pieces "" value pieces ∧ payload pieces = received ∧
      schema.decode (canonicalPayload pieces) = .ok value ∧
      schema.encode value =
        match pieces.findSome? Piece.refusal? with
        | none => .ok (canonicalPayload pieces)
        | some e => .error e := by
  rw [schema.decode_eq_readBy] at decoded
  have laid := (Schema.readBy_eq_ok_iff Reader.checked_faithful).mp decoded
  obtain ⟨pieces, parts, same⟩ := schema.exists_pieces "" value received laid
  refine ⟨pieces, parts, same, ?_, Schema.encode_of_pieces obtainable.namesDistinct parts⟩
  rw [schema.decode_eq_readBy, Schema.readBy_eq_ok_iff Reader.checked_faithful]
  exact schema.layout_canonical "" value pieces parts

/-- A path through two points, of which the first has a signaling NaN, and which
is all right by a truth value above one. -/
def loosePath : Bytes :=
  [1, 0, 0x80, 0x7f, 5, 0, 0, 0, 6, 0, 0, 0, 0, 0, 0x80, 0x3f, 0, 0, 0, 0, 0xff, 0xff, 0xff, 0xff,
    2, 0, 0, 0, 104, 0xff, 7, 3, 0]

theorem Schema.encode_of_decode_loosePath :
    ∃ value, pathSchema.Obtainable ∧ pathSchema.decode loosePath = .ok value ∧
      pathSchema.encode value =
        .ok [1, 0, 0xc0, 0x7f, 5, 0, 0, 0, 6, 0, 0, 0, 0, 0, 0x80, 0x3f, 0, 0, 0, 0,
          0xff, 0xff, 0xff, 0xff, 2, 0, 0, 0, 104, 0xff, 1, 3, 0] ∧
      ∃ pieces, pathSchema.Pieces "" value pieces ∧ payload pieces = loosePath ∧
        pathSchema.decode (canonicalPayload pieces) = .ok value ∧
        pathSchema.encode value =
          match pieces.findSome? Piece.refusal? with
          | none => .ok (canonicalPayload pieces)
          | some e => .error e := by
  have sent : pathSchema.decode loosePath >>= pathSchema.encode =
      .ok [1, 0, 0xc0, 0x7f, 5, 0, 0, 0, 6, 0, 0, 0, 0, 0, 0x80, 0x3f, 0, 0, 0, 0,
        0xff, 0xff, 0xff, 0xff, 2, 0, 0, 0, 104, 0xff, 1, 3, 0] :=
    toOption_eq_some_iff.mp (by decide +kernel)
  obtain ⟨value, decoded, encoded⟩ := bind_eq_ok_iff.mp sent
  exact ⟨value, pathSchema_obtainable, decoded, encoded,
    Schema.encode_of_decode pathSchema_obtainable decoded⟩

def tickSchema : Schema where
  name := "demo/Tick"
  fields := [⟨"data", .builtin (.uint .w64), .single⟩]
  constants := []

/-- The least unsigned word that no script integer holds is read, but what it is
read as is not written. -/
theorem Schema.encode_ne_ok_of_decode_large :
    tickSchema.Obtainable ∧
      tickSchema.decode [0, 0, 0, 0, 0, 0, 0, 0x80] =
        .ok (.table [("data", .float ⟨0x43e0000000000000⟩)]) ∧
      ¬ ∃ bytes, tickSchema.encode (.table [("data", .float ⟨0x43e0000000000000⟩)]) = .ok bytes := by
  have nearest : Binary64.ofInt (2 ^ 63) = ⟨0x43e0000000000000⟩ := by decide +kernel
  refine ⟨⟨_, "demo/Tick", "uint64 data", _, Catalog.Built.empty, rfl⟩, ?_, ?_⟩
  · rw [← nearest]
    rfl
  · have refused : (tickSchema.encode
        (.table [("data", .float ⟨0x43e0000000000000⟩)])).toOption = none := by decide +kernel
    rintro ⟨bytes, written⟩
    rw [written] at refused
    cases refused

end TopicBridge
