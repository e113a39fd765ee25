/-!
# UTF-8

Texts as octets and back. Main statements: `ofUtf8?_utf8`, reading back what was written gives the text;
`ofUtf8?_eq_some_iff`, nothing else is read as that text.
-/

namespace CommentBot.Text

/-- The octets of a text. -/
def utf8 (text : String) : List UInt8 :=
  text.toList.flatMap String.utf8EncodeChar

/-- The text written by the octets, if they are well formed. -/
def ofUtf8? (octets : List UInt8) : Option String :=
  String.fromUTF8? octets.toByteArray

theorem toByteArray_utf8 (text : String) : (utf8 text).toByteArray = text.toByteArray := by
  have h := String.toByteArray_ofList (l := text.toList)
  rw [String.ofList_toList] at h
  rw [h, utf8, List.utf8Encode]

/-- A text is read back from its own octets. -/
theorem ofUtf8?_utf8 (text : String) : ofUtf8? (utf8 text) = some text := by
  rw [ofUtf8?, toByteArray_utf8, String.fromUTF8?]
  simp [text.isValidUTF8, String.fromUTF8]

/-- The octets of a text are the only ones that are read as it. -/
theorem ofUtf8?_eq_some_iff {octets : List UInt8} {text : String} :
    ofUtf8? octets = some text ↔ octets = utf8 text := by
  constructor
  · intro h
    unfold ofUtf8? String.fromUTF8? at h
    split at h
    · have htext := Option.some.inj h
      have hoctets : octets.toByteArray = (utf8 text).toByteArray := by
        rw [toByteArray_utf8, ← htext]
        rfl
      simpa using congrArg (fun a => a.data.toList) hoctets
    · cases h
  · rintro rfl
    exact ofUtf8?_utf8 text

end CommentBot.Text
