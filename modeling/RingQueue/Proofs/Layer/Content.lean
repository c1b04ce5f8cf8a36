import RingQueue.Layer.File

/-! The content of files. What was written as text is read as that text, without the mark that may
stand in front. -/
namespace RingQueue

namespace Text

theorem toList_loop_bytes (bytes : ByteArray) (start : Nat) (found : List UInt8) :
    ByteArray.toList.loop bytes start found = found.reverse ++ bytes.data.toList.drop start := by
  fun_induction ByteArray.toList.loop bytes start found with
  | case1 start found more ih =>
    have within : start < bytes.data.toList.length := by simpa using more
    have byte : bytes.get! start = bytes.data.toList[start] :=
      getElem!_pos bytes.data start (by simpa using more)
    rw [ih, List.drop_eq_getElem_cons within, byte]
    simp
  | case2 start found done =>
    rw [List.drop_eq_nil_of_le (by simpa using done), List.append_nil]

theorem toList_bytes (bytes : ByteArray) : bytes.toList = bytes.data.toList :=
  toList_loop_bytes bytes 0 []

theorem ofBytes_toUTF8 (text : String) : ofBytes text.toUTF8 = text := by
  have read : String.fromUTF8? text.toUTF8 = some text := by
    rw [String.fromUTF8?, String.toUTF8_eq_toByteArray, dif_pos text.isValidUTF8]
    rfl
  rw [ofBytes, read]

theorem toUTF8_cons (c : Char) (rest : List Char) :
    (String.ofList (c :: rest)).toUTF8 =
      (String.utf8EncodeChar c).toByteArray ++ (String.ofList rest).toUTF8 := by
  simp only [String.toUTF8_eq_toByteArray, String.toByteArray_ofList]
  rw [List.utf8Encode_cons, List.utf8Encode_singleton]

end Text

namespace Layer

/-- The bytes of the mark. -/
def markBytes : ByteArray := (String.utf8EncodeChar '\ufeff').toByteArray

theorem size_markBytes : markBytes.size = 3 := by decide

theorem toList_markBytes : markBytes.toList = byteMark := by
  rw [Text.toList_bytes]
  decide

theorem toList_eq_byteMark {bytes : ByteArray} : bytes.toList = byteMark ↔ bytes = markBytes := by
  rw [← toList_markBytes, Text.toList_bytes, Text.toList_bytes, Array.toList_inj]
  exact ⟨ByteArray.ext, congrArg ByteArray.data⟩

/-- Only a mark begins with the bytes of one. -/
theorem exists_of_extract {text : String} (starts : text.toUTF8.extract 0 3 = markBytes) :
    ∃ rest, text.toList = '\ufeff' :: rest := by
  have long : 3 ≤ text.toUTF8.size := by
    have size := congrArg ByteArray.size starts
    rw [ByteArray.size_extract, size_markBytes] at size
    omega
  have shape : text.toUTF8 = markBytes ++ text.toUTF8.extract 3 text.toUTF8.size := by
    rw [← starts, ← ByteArray.extract_eq_extract_append_extract 3 (by decide) long,
      ByteArray.extract_zero_size]
  have mark : text.toUTF8.utf8DecodeChar? 0 = some '\ufeff' := by
    rw [shape]
    exact ByteArray.utf8DecodeChar?_utf8EncodeChar_append
  cases chars : text.toList with
  | nil =>
    obtain rfl : text = "" := String.toList_inj.mp chars
    exact absurd mark (by decide)
  | cons c rest =>
    have whole : text = .ofList (c :: rest) := by rw [← chars, String.ofList_toList]
    rw [whole, Text.toUTF8_cons, ByteArray.utf8DecodeChar?_utf8EncodeChar_append] at mark
    obtain rfl := Option.some.inj mark
    exact ⟨rest, rfl⟩

theorem skipMark_of_ne {text : List Char} (plain : ∀ rest, text ≠ '\ufeff' :: rest) :
    Toml.skipMark text = text := by
  unfold Toml.skipMark
  split
  · exact absurd rfl (plain _)
  · rfl

theorem contentText_toUTF8 (text : String) :
    contentText text.toUTF8 = .ofList (Toml.skipMark text.toList) := by
  simp only [contentText, toList_eq_byteMark]
  split
  · rename_i starts
    obtain ⟨rest, chars⟩ := exists_of_extract starts
    have whole : text = .ofList ('\ufeff' :: rest) := by rw [← chars, String.ofList_toList]
    have bytes : text.toUTF8.extract 3 text.toUTF8.size = (String.ofList rest).toUTF8 := by
      rw [whole, Text.toUTF8_cons]
      exact ByteArray.extract_append_eq_right size_markBytes.symm ByteArray.size_append
    rw [bytes, Text.ofBytes_toUTF8, chars]
    rfl
  · rename_i unmarked
    have plain (rest : List Char) (chars : text.toList = '\ufeff' :: rest) : False := by
      have whole : text = .ofList ('\ufeff' :: rest) := by rw [← chars, String.ofList_toList]
      rw [whole, Text.toUTF8_cons] at unmarked
      exact unmarked (ByteArray.extract_append_eq_left size_markBytes.symm)
    rw [Text.ofBytes_toUTF8, skipMark_of_ne plain, String.ofList_toList]

/-- A mark begins no line. -/
theorem lines?_mark (bound : Nat) (rest : List Char) :
    Toml.lines? bound ('\ufeff' :: rest) = none := by
  cases bound with
  | zero => rfl
  | succ bound =>
    simp [Toml.lines?, Toml.skipTrivia, Toml.isBlank, Toml.pair?, Toml.boundedKey?, Toml.key?,
      Toml.skipBlanks, Toml.simpleKey?, Toml.isBareKeyChar]

/-- So a document has at most one mark. -/
theorem parse?_contentText {text : String} {value : Datum}
    (parsed : Toml.parse? text = some value) : Toml.parse? (contentText text.toUTF8) = some value := by
  have once : Toml.skipMark (Toml.skipMark text.toList) = Toml.skipMark text.toList := by
    apply skipMark_of_ne
    intro rest twice
    simp [Toml.parse?, twice, lines?_mark] at parsed
  rw [contentText_toUTF8, Toml.parse?, String.toList_ofList, once]
  exact parsed

end Layer
end RingQueue
