import SqlFilter.Compiler
import SqlFilter.Statement.Row
/-! The statements of a table. -/
namespace SqlFilter

/-- A table to write statements for. -/
structure Table where
  schema : Schema
  dialect : Dialect
  options : CompileOptions

namespace Table

def name (t : Table) : String := t.schema.tableName

def compiler (t : Table) : Compiler := ⟨t.options, some t.schema⟩

/-- A condition on the table, and whether an alternative stands at its top level. -/
structure Condition where
  query : Query
  hasOr : Bool

/-- The condition of a predicate. -/
def condition (t : Table) (e : Expr) : Except StatementError Condition :=
  match t.compiler.tree e with
  | .error cause => .error (.compile cause)
  | .ok tree => .ok ⟨tree.toQuery t.options.escapeWildcards, tree.hasTopLevelOr⟩

def requireColumn (t : Table) (column : String) : Except StatementError Unit :=
  if t.schema.hasColumn column then .ok () else .error (.unknownColumn column t.name)

/-- The given columns, at least one and all declared. -/
def checkedColumns (t : Table) (use : ColumnUse) (columns : List String) :
    Except StatementError (List String) :=
  if columns.isEmpty then .error (.noColumns t.name use)
  else do
    columns.forM t.requireColumn
    return columns

/-- The columns that are read unless others are named. -/
def selectNames (t : Table) : Except StatementError (List String) :=
  let names := t.schema.selectColumns.map (·.name)
  if names.isEmpty then .error (.noColumns t.name .select) else .ok names

/-- The only key column. -/
def singleKey (t : Table) : Except StatementError Column :=
  match t.schema.keyColumns with
  | [] => .error (.missingKey t.name)
  | [key] => .ok key
  | keys => .error (.compositeKey t.name keys.length)

def selectFrom (table : String) (columns : List String) : String :=
  "SELECT " ++ ", ".intercalate columns ++ " FROM " ++ table

/-- A column and the parameter of its name, with a sign of equality. -/
def assignment (column : String) : String :=
  column ++ " = @" ++ column

def assignments (columns : List Column) : List String :=
  columns.map fun c => assignment c.name

/-- All rows. -/
def selectAll (t : Table) : Except StatementError Statement := do
  return ⟨selectFrom t.name (← t.selectNames), []⟩

/-- Some columns, from some table, of the rows that meet a predicate. -/
def selectWhere (t : Table) (table : String) (columns : List String) (e : Expr) :
    Except StatementError Statement := do
  let c ← t.condition e
  return ⟨selectFrom table columns ++ " WHERE " ++ c.query.sql, c.query.parameters⟩

/-- The rows that meet a predicate, from another table or view with the same columns. -/
def findAllFrom (t : Table) (table : String) (e : Expr) : Except StatementError Statement := do
  t.selectWhere table (← t.selectNames) e

/-- The rows that meet a predicate. -/
def findAll (t : Table) (e : Expr) : Except StatementError Statement :=
  t.findAllFrom t.name e

/-- The rows that meet a predicate, of which the caller reads one. -/
def find (t : Table) (e : Expr) : Except StatementError Statement :=
  t.findAll e

/-- Some columns of the rows that meet a predicate. -/
def findAllWithColumns (t : Table) (columns : List String) (e : Expr) :
    Except StatementError Statement := do
  t.selectWhere t.name (← t.checkedColumns .select columns) e

/-- The rows whose field is among the values and that meet the predicate, if there is one. An
alternative at the top level of the predicate is put in parentheses. -/
def findAllIn (t : Table) (field : String) (values : List Value) (e : Option Expr)
    (columns : Option (List String)) : Except StatementError Statement := do
  t.requireColumn field
  let names ← match columns with
    | some columns => t.checkedColumns .select columns
    | none => t.selectNames
  let parameter := field ++ "_in"
  let sql := selectFrom t.name names ++ " WHERE " ++ field ++ " IN @" ++ parameter
  match e with
  | none => return ⟨sql, [⟨parameter, .list values⟩]⟩
  | some e =>
    let c ← t.condition e
    let more := if c.hasOr then "(" ++ c.query.sql ++ ")" else c.query.sql
    return ⟨sql ++ " AND " ++ more, ⟨parameter, .list values⟩ :: c.query.parameters⟩

/-- The first row in the order of some columns, among those that meet the predicate. -/
def findFirstByOrder (t : Table) (order : List String) (e : Option Expr) (descending : Bool) :
    Except StatementError Statement := do
  let order ← t.checkedColumns .orderBy order
  let select := selectFrom t.name (← t.selectNames)
  let filtered : Statement ← match e with
    | none => pure ⟨select, []⟩
    | some e => do
      let c ← t.condition e
      pure ⟨select ++ " WHERE " ++ c.query.sql, c.query.parameters⟩
  let sql := filtered.sql ++ " ORDER BY " ++ ", ".intercalate order ++
    (if descending then " DESC" else "")
  return ⟨t.dialect.firstRow sql, filtered.parameters⟩

/-- The row with a key. -/
def getById (t : Table) (id : Value) : Except StatementError Statement := do
  let key ← t.singleKey
  let names ← t.selectNames
  return ⟨selectFrom t.name names ++ " WHERE " ++ assignment key.name, [⟨key.name, id⟩]⟩

/-- A new row. -/
def insert (t : Table) (written : Except String Json) : Except StatementError Statement :=
  let columns := t.schema.insertColumns
  if columns.isEmpty then .error (.noColumns t.name .insert)
  else do
    let row ← Row.read t.name written
    let parameters ← row.bind columns
    let names := columns.map (·.name)
    return ⟨"INSERT INTO " ++ t.name ++ " (" ++ ", ".intercalate names ++ ") VALUES (" ++
      ", ".intercalate (names.map ("@" ++ ·)) ++ ")", parameters⟩

/-- A new row each. -/
def insertAll (t : Table) (rows : List (Except String Json)) :
    Except StatementError (List Statement) :=
  rows.mapM t.insert

/-- A row that is there, with all its columns that can be set. -/
def update (t : Table) (written : Except String Json) : Except StatementError Statement :=
  let set := t.schema.updateColumns
  let matched := t.schema.whereColumns
  if set.isEmpty then .error (.noColumns t.name .update)
  else if matched.isEmpty then .error (.missingKey t.name)
  else do
    let row ← Row.read t.name written
    let setParameters ← row.bind set
    let matchParameters ← row.bind matched
    return ⟨"UPDATE " ++ t.name ++ " SET " ++ ", ".intercalate (assignments set) ++ " WHERE " ++
      " AND ".intercalate (assignments matched), setParameters ++ matchParameters⟩

/-- Some columns of the rows that meet a predicate. -/
def updateColumns (t : Table) (values : List (String × Value)) (e : Expr) :
    Except StatementError Statement :=
  if values.isEmpty then .error (.noColumns t.name .update)
  else do
    values.forM fun v => t.requireColumn v.1
    let c ← t.condition e
    return ⟨"UPDATE " ++ t.name ++ " SET " ++ ", ".intercalate (values.map fun v => assignment v.1) ++
      " WHERE " ++ c.query.sql, values.map (fun v => ⟨v.1, v.2⟩) ++ c.query.parameters⟩

/-- A row goes, found by its key columns. -/
def delete (t : Table) (written : Except String Json) : Except StatementError Statement :=
  let keys := t.schema.keyColumns
  if keys.isEmpty then .error (.missingKey t.name)
  else do
    let row ← Row.read t.name written
    let parameters ← row.bind keys
    return ⟨"DELETE FROM " ++ t.name ++ " WHERE " ++ " AND ".intercalate (assignments keys),
      parameters⟩

/-- The rows that meet a predicate go. -/
def deleteWhere (t : Table) (e : Expr) : Except StatementError Statement := do
  let c ← t.condition e
  return ⟨"DELETE FROM " ++ t.name ++ " WHERE " ++ c.query.sql, c.query.parameters⟩

/-- A row is flagged as deleted. -/
def softDelete (t : Table) (written : Except String Json) : Except StatementError Statement :=
  match t.schema.softDeleteColumn with
  | none => .error (.softDeleteUnsupported t.name)
  | some flag =>
    let matched := t.schema.whereColumns
    if matched.isEmpty then .error (.missingKey t.name)
    else do
      let row ← Row.read t.name written
      let parameters ← row.bind matched
      return ⟨"UPDATE " ++ t.name ++ " SET " ++ flag ++ " = 1 WHERE " ++
        " AND ".intercalate (assignments matched), parameters⟩

end Table
end SqlFilter
