/-!
# Dialects of delimited text

A `Dialect` fixes the bytes that separate and quote the fields of a row. Delimited text is handled
byte by byte, as UTF-8.

* `utf8Bytes`, `ofUtf8Bytes?` : texts and their bytes; `ofUtf8Bytes?_utf8Bytes` says that a text is
  found again.
-/

namespace SurveyTables

/-- The bytes that separate and quote fields. -/
structure Dialect where
  delimiter : UInt8
  quote : UInt8
  deriving DecidableEq, Repr

/-- Commas and double quotes. -/
def Dialect.standard : Dialect := ⟨44, 34⟩

/-- The carriage return. -/
def returnByte : UInt8 := 13

/-- The line feed. -/
def feedByte : UInt8 := 10

/-- The byte ends a line. -/
def isLineEnd (b : UInt8) : Bool := b == returnByte || b == feedByte

def utf8Bytes (s : String) : List UInt8 := s.toUTF8.data.toList

def ofUtf8Bytes? (bytes : List UInt8) : Option String := String.fromUTF8? ⟨bytes.toArray⟩

theorem ofUtf8Bytes?_utf8Bytes (s : String) : ofUtf8Bytes? (utf8Bytes s) = some s := by
  have h : (⟨(utf8Bytes s).toArray⟩ : ByteArray) = s.toByteArray := by
    simp [utf8Bytes, String.toUTF8]
  unfold ofUtf8Bytes?
  rw [h, String.fromUTF8?, dif_pos s.isValidUTF8]
  rfl

end SurveyTables
