/-! # Bytes and texts

Arguments are byte strings; documents, identifiers and messages are texts. A text
is carried as its UTF-8 bytes, and its bytes determine it.
-/

namespace PayloadExchange

/-- A byte string with any content, zero bytes included. -/
abbrev Bytes := List UInt8

namespace Text

def utf8 (text : String) : Bytes := text.toUTF8.data.toList

/-- The text with these UTF-8 bytes; `none` unless they are well formed. -/
def ofUtf8? (bytes : Bytes) : Option String := String.fromUTF8? bytes.toByteArray

theorem utf8_inj {a b : String} (h : utf8 a = utf8 b) : a = b := by
  have same : a.toByteArray = b.toByteArray := by
    ext1
    exact Array.toList_inj.1 h
  exact String.toByteArray_inj.1 same

@[simp] theorem ofUtf8?_utf8 (text : String) : ofUtf8? (utf8 text) = some text := by
  have same : (utf8 text).toByteArray = text.toByteArray := by
    ext1
    simp [utf8, List.data_toByteArray]
  simp [ofUtf8?, same, String.fromUTF8?, String.fromUTF8, text.isValidUTF8]

theorem utf8_of_ofUtf8? {bytes : Bytes} {text : String} (h : ofUtf8? bytes = some text) :
    utf8 text = bytes := by
  simp only [ofUtf8?, String.fromUTF8?] at h
  split at h
  · obtain rfl := Option.some.inj h
    simp [utf8, String.fromUTF8, List.data_toByteArray]
  · simp at h

def byteCount (chars : List Char) : Nat :=
  chars.foldl (fun count c => count + c.utf8Size) 0

end Text

/-- What a reader of a zero-terminated string sees of a block of memory. -/
def Bytes.beforeNul (bytes : Bytes) : Bytes := bytes.takeWhile (· ≠ 0)

end PayloadExchange
