import SurveyTables.Delimited.Dialect

/-!
# Writing rows

* `LineEnd` : how a line ends;
* `fieldBytes` : a field, quoted if it holds a delimiter, a quote or the end of a line, with quotes
  inside doubled;
* `rowBytes` : the fields of a row, with delimiters between them and the end of a line after them.
-/

namespace SurveyTables

/-- How a line ends. -/
inductive LineEnd where
  | lf
  | crlf
  deriving DecidableEq, Repr

/-- The bytes at the end of a line. -/
def LineEnd.bytes : LineEnd → List UInt8
  | .lf => [feedByte]
  | .crlf => [returnByte, feedByte]

namespace Dialect

/-- A field with this byte in it has to be quoted. -/
def isSpecial (d : Dialect) (b : UInt8) : Bool :=
  b == d.delimiter || b == d.quote || isLineEnd b

/-- A byte inside quotes: a quote twice, any other once. -/
def quotedByte (d : Dialect) (b : UInt8) : List UInt8 := if b = d.quote then [b, b] else [b]

/-- A field between quotes. -/
def quoted (d : Dialect) (field : List UInt8) : List UInt8 :=
  d.quote :: field.flatMap d.quotedByte ++ [d.quote]

def fieldBytes (d : Dialect) (field : List UInt8) : List UInt8 :=
  if field.any d.isSpecial then d.quoted field else field

/-- The fields of a row with delimiters between them. -/
def joinFields (d : Dialect) (fields : List (List UInt8)) : List UInt8 :=
  [d.delimiter].intercalate (fields.map d.fieldBytes)

def rowBytes (d : Dialect) (e : LineEnd) (fields : List (List UInt8)) : List UInt8 :=
  d.joinFields fields ++ e.bytes

end Dialect

end SurveyTables
