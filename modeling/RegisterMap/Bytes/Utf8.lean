import RegisterMap.Bytes.BigEndian

/-! # Texts as bytes -/

namespace RegisterMap.Utf8

def encode (s : String) : Bytes :=
  s.toUTF8.toList

/-- The text with the given bytes, if they encode one. -/
def decode? (bytes : Bytes) : Option String :=
  String.fromUTF8? ⟨bytes.toArray⟩

end RegisterMap.Utf8
