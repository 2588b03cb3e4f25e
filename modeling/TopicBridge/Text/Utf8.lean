import TopicBridge.Number.LittleEndian

/-!
# Text as UTF-8 bytes

A text is written as its UTF-8 bytes, and bytes are read as text only if they
are well-formed UTF-8.  Reading gives back exactly the text that was written.
-/

namespace TopicBridge.Text

/-- The UTF-8 bytes of a text. -/
def encodeUtf8 (text : String) : Bytes :=
  text.toUTF8.data.toList

/-- The text that bytes spell, if they are well-formed UTF-8. -/
def decodeUtf8? (bytes : Bytes) : Option String :=
  String.fromUTF8? bytes.toByteArray

@[simp]
theorem length_encodeUtf8 (text : String) : (encodeUtf8 text).length = text.utf8ByteSize :=
  rfl

theorem toByteArray_encodeUtf8 (text : String) : (encodeUtf8 text).toByteArray = text.toUTF8 := by
  apply ByteArray.ext
  apply Array.toList_inj.mp
  simp [encodeUtf8]

/-- The bytes that can be read as a text are exactly those it is written as. -/
theorem decodeUtf8?_eq_some_iff {bytes : Bytes} {text : String} :
    decodeUtf8? bytes = some text ↔ bytes = encodeUtf8 text := by
  unfold decodeUtf8? String.fromUTF8?
  constructor
  · intro h
    split at h
    · cases h
      simp [encodeUtf8, String.fromUTF8, String.toUTF8]
    · cases h
  · rintro rfl
    rw [dif_pos (by rw [toByteArray_encodeUtf8]; exact text.isValidUTF8)]
    simp only [toByteArray_encodeUtf8]
    rfl

end TopicBridge.Text
