import SqlFilter.Schema.Basic
import SqlFilter.Statement.Basic
/-! Values of rows. A row is an object that names its columns; a value is anything without an
object inside. -/
namespace SqlFilter

/-- What sort of document it is, with its article. -/
def Json.sort : Json → String
  | .null => "null"
  | .bool _ => "a bool"
  | .int _ | .float _ => "a number"
  | .text _ => "a string"
  | .list _ => "an array"
  | .object _ => "an object"

/-- A row of a table, as an object. Of a repeated name the last counts. -/
structure Row where
  table : String
  fields : List (String × Json)

namespace Row

/-- Takes a document, or the reason why there is none, as a row. -/
def read (table : String) (written : Except String Json) : Except StatementError Row :=
  match written with
  | .error reason => .error (.unwritableRow (.ofText reason))
  | .ok (.object fields) => .ok ⟨table, fields⟩
  | .ok j => .error (.invalidRow table (.notAnObject j.sort))

def value (row : Row) (column : String) : Except StatementError Value :=
  match row.fields.reverse.lookup column with
  | none => .error (.missingValue row.table column)
  | some j =>
    match Value.ofJson? j with
    | some v => .ok v
    | none => .error (.invalidRow row.table (.objectAt column))

/-- The values of some columns, as parameters of the same names. -/
def bind (row : Row) (columns : List Column) : Except StatementError (List Parameter) :=
  columns.mapM fun c => do return ⟨c.name, ← row.value c.name⟩

end Row
end SqlFilter
