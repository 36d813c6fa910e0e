import SqlFilter.Json.Written
import SqlFilter.Schema.Basic
/-! Schemas as JSON. -/
namespace SqlFilter

namespace Column

def fieldNames : List String :=
  ["name", "is_key", "include_in_select", "include_in_insert", "include_in_update",
    "include_in_where"]

/-- Only the name is required; a column left bare is one of values. -/
def ofWritten? (w : Json.Written) : Option Column := do
  let flag := Json.optional (Json.Written.read? Json.bool?)
  match ← w.fields? fieldNames with
  | [name, isKey, inSelect, inInsert, inUpdate, inWhere] => return {
      name := ← (← name).read? Json.text?
      isKey := ← flag false isKey
      inSelect := ← flag true inSelect
      inInsert := ← flag true inInsert
      inUpdate := ← flag true inUpdate
      inWhere := ← flag false inWhere }
  | _ => none

def toJson (c : Column) : Json :=
  .object [("name", .text c.name), ("is_key", .bool c.isKey),
    ("include_in_select", .bool c.inSelect), ("include_in_insert", .bool c.inInsert),
    ("include_in_update", .bool c.inUpdate), ("include_in_where", .bool c.inWhere)]

end Column

namespace Schema

def fieldNames : List String :=
  ["table_name", "columns", "soft_delete_column"]

def ofWritten? (w : Json.Written) : Option Schema := do
  match ← w.fields? fieldNames with
  | [tableName, columns, softDelete] => return {
      tableName := ← (← tableName).read? Json.text?
      columns := ← (← (← columns).items?).mapM Column.ofWritten?
      softDeleteColumn :=
        ← Json.optional (Json.Written.read? (Json.nullable Json.text?)) none softDelete }
  | _ => none

def ofJson? (j : Json) : Option Schema :=
  ofWritten? j.written

def toJson (s : Schema) : Json :=
  .record [("table_name", some (.text s.tableName)),
    ("columns", some (.list (s.columns.map Column.toJson))),
    ("soft_delete_column", s.softDeleteColumn.map .text)]

end Schema
end SqlFilter
