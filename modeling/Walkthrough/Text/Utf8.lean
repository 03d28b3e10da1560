/-!
# Text as octets

Text leaves and enters the program as octets.  Writing is total (`encode`); reading may fail
(`decode?`).  Main statements: what was written is read back (`decode?_encode`), and octets that
are read are the written form of what they were read as (`encode_of_decode?`), so reading accepts
exactly what writing produces (`decode?_eq_some_iff`).
-/

namespace Walkthrough.Text.Utf8

/-- The octets of a text, character after character. -/
def encode (text : String) : List UInt8 :=
  text.toList.flatMap String.utf8EncodeChar

/-- The text that some octets are the written form of, if there is one. -/
def decode? (octets : List UInt8) : Option String :=
  String.fromUTF8? octets.toByteArray

@[simp]
theorem encode_append (a b : String) : encode (a ++ b) = encode a ++ encode b := by
  simp [encode]

@[simp]
theorem encode_empty : encode "" = [] := rfl

theorem toByteArray_encode (text : String) : (encode text).toByteArray = text.toByteArray := by
  rw [← String.utf8Encode_toList]
  rfl

theorem toByteArray_injective {a b : List UInt8} (h : a.toByteArray = b.toByteArray) : a = b := by
  rw [← List.toList_data_toByteArray (l := a), h, List.toList_data_toByteArray]

/-- Two texts with the same octets are the same text. -/
theorem encode_injective {a b : String} (h : encode a = encode b) : a = b := by
  have octets := congrArg List.toByteArray h
  rwa [toByteArray_encode, toByteArray_encode, String.toByteArray_inj] at octets

@[simp]
theorem encode_eq_nil {text : String} : encode text = [] ↔ text = "" :=
  ⟨fun h => encode_injective (h.trans encode_empty.symm), fun h => h ▸ encode_empty⟩

/-! ## Reading accepts exactly what writing produces -/

@[simp]
theorem decode?_encode (text : String) : decode? (encode text) = some text := by
  unfold decode? String.fromUTF8?
  rw [toByteArray_encode, dif_pos text.isValidUTF8]
  rfl

theorem encode_of_decode? {octets : List UInt8} {text : String} (h : decode? octets = some text) :
    encode text = octets := by
  unfold decode? String.fromUTF8? at h
  split at h
  · cases h
    exact toByteArray_injective (toByteArray_encode _)
  · cases h

/-- Reading accepts exactly what writing produces. -/
theorem decode?_eq_some_iff {octets : List UInt8} {text : String} :
    decode? octets = some text ↔ encode text = octets :=
  ⟨encode_of_decode?, fun h => h ▸ decode?_encode text⟩

end Walkthrough.Text.Utf8
