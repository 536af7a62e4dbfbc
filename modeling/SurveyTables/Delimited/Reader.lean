import SurveyTables.Dataset
import SurveyTables.Delimited.Dialect

/-!
# Reading delimited text

The reader goes through the bytes one by one. A quote opens a quoted field only as its first byte;
inside, two quotes stand for one, and what follows the closing quote belongs to the field as it is.
Carriage returns and line feeds end a row, and rows without a byte are skipped.

* `Position`, `Dialect.action` : where the reader stands, and what it does with a byte there;
* `Dialect.rows` : the fields of each row;
* `Dataset.read` : the dataset of a text, its first row being the header.
-/

namespace SurveyTables

/-- Where the reader stands: before a row, before a field, in a field, in a quoted field, or after a
quote in a quoted field, which may be the closing one. -/
inductive Position where
  | rowStart
  | fieldStart
  | bare
  | quoted
  | afterQuote
  deriving DecidableEq, Repr

/-- What the reader does with a byte: pass over it, add it to the field, or end the field or the
row. -/
inductive ReadAction where
  | skip (next : Position)
  | keep (next : Position)
  | endField
  | endRow
  deriving DecidableEq, Repr

namespace Dialect

/-- What to do with a byte inside a field without quotes. -/
def bareAction (d : Dialect) (b : UInt8) : ReadAction :=
  if b = d.delimiter then .endField
  else if isLineEnd b then .endRow
  else .keep .bare

def action (d : Dialect) : Position → UInt8 → ReadAction
  | .rowStart, b =>
    if isLineEnd b then .skip .rowStart
    else if b = d.quote then .skip .quoted
    else d.bareAction b
  | .fieldStart, b => if b = d.quote then .skip .quoted else d.bareAction b
  | .bare, b => d.bareAction b
  | .quoted, b => if b = d.quote then .skip .afterQuote else .keep .quoted
  | .afterQuote, b => if b = d.quote then .keep .quoted else d.bareAction b

/-- The rows of the rest of a text. `field` and `row` hold what has been read of the current field
and row, latest first. -/
def rowsFrom (d : Dialect) (p : Position) (field : List UInt8) (row : List (List UInt8)) :
    List UInt8 → List (List (List UInt8))
  | [] => if p = .rowStart then [] else [(field.reverse :: row).reverse]
  | b :: rest =>
    match d.action p b with
    | .skip next => d.rowsFrom next field row rest
    | .keep next => d.rowsFrom next (b :: field) row rest
    | .endField => d.rowsFrom .fieldStart [] (field.reverse :: row) rest
    | .endRow => (field.reverse :: row).reverse :: d.rowsFrom .rowStart [] [] rest

def rows (d : Dialect) (bytes : List UInt8) : List (List (List UInt8)) :=
  d.rowsFrom .rowStart [] [] bytes

end Dialect

/-- The bytes without a byte order mark in front. -/
def dropByteOrderMark : List UInt8 → List UInt8
  | 0xEF :: 0xBB :: 0xBF :: rest => rest
  | bytes => bytes

/-- Settings for reading a dataset. -/
structure ReadOptions where
  dialect : Dialect
  trim : Bool
  deriving DecidableEq, Repr

/-- Commas, double quotes, and blanks cut off the ends of fields. -/
def ReadOptions.standard : ReadOptions := ⟨.standard, true⟩

/-- Why a text is no dataset. -/
inductive ReadError where
  | invalidEncoding
  | missingHeader
  | dataset (e : DatasetError)
  deriving DecidableEq, Repr

/-- The wording of the reason. -/
def ReadError.message : ReadError → String
  | .invalidEncoding => "CSV input is not valid UTF-8"
  | .missingHeader => "CSV input has no header row"
  | .dataset e => e.message

/-- The fields of a row as texts. -/
def ReadOptions.fields (o : ReadOptions) (row : List (List UInt8)) :
    Except ReadError (List String) :=
  match row.mapM ofUtf8Bytes? with
  | none => .error .invalidEncoding
  | some texts => .ok (if o.trim then texts.map Text.trimmed else texts)

/-- The dataset with one more respondent, from a row of bytes. -/
def ReadOptions.pushRow (o : ReadOptions) (d : Dataset) (row : List (List UInt8)) :
    Except ReadError Dataset :=
  (o.fields row).bind fun fields => (d.pushRow fields).mapError .dataset

/-- The dataset without respondents that has a row of bytes as its header. -/
def ReadOptions.header (o : ReadOptions) (row : List (List UInt8)) : Except ReadError Dataset :=
  (o.fields row).bind fun columns =>
    if columns.all fun c => decide (c = "") then .error .missingHeader
    else (Dataset.ofColumns columns).mapError .dataset

def Dataset.read (o : ReadOptions) (bytes : List UInt8) : Except ReadError Dataset :=
  match o.dialect.rows (dropByteOrderMark bytes) with
  | [] => .error .missingHeader
  | head :: rest => (o.header head).bind fun d => rest.foldlM o.pushRow d

end SurveyTables
