import CallWire.Bytes

/-!
# Text as bytes

The wire form of a text is its UTF-8 form. Decoding accepts exactly the byte strings that encoding
produces (`decode?_eq_some_iff`), so it refuses overlong forms, surrogates and values past the
last code point.
-/

namespace CallWire.Text

/-- The UTF-8 form of a text. -/
def encode (s : String) : Bytes := s.toByteArray.data.toList

/-- The text whose UTF-8 form is `bs`, if there is one. -/
def decode? (bs : Bytes) : Option String := String.fromUTF8? ⟨bs.toArray⟩

def size (s : String) : Nat := s.utf8ByteSize

theorem length_encode (s : String) : (encode s).length = size s := by
  simp [encode, size]

theorem decode?_encode (s : String) : decode? (encode s) = some s := by
  have h : (⟨(encode s).toArray⟩ : ByteArray) = s.toByteArray := by simp [encode]
  rw [decode?, h, String.fromUTF8?, dif_pos s.isValidUTF8]
  rfl

theorem eq_encode_of_decode? {bs : Bytes} {s : String} (h : decode? bs = some s) :
    bs = encode s := by
  rw [decode?, String.fromUTF8?] at h
  split at h
  · injection h with h
    rw [← h]
    simp [encode, String.fromUTF8]
  · cases h

theorem decode?_eq_some_iff {bs : Bytes} {s : String} : decode? bs = some s ↔ bs = encode s :=
  ⟨eq_encode_of_decode?, fun h => h ▸ decode?_encode s⟩

theorem encode_injective {s t : String} (h : encode s = encode t) : s = t := by
  have := congrArg decode? h
  simpa [decode?_encode] using this

end CallWire.Text
