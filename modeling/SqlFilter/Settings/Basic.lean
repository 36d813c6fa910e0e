import SqlFilter.Identifier
import SqlFilter.Settings.Layer
/-! The settings that the program runs with. -/
namespace SqlFilter

/-- What the command line and the environment say over all files. -/
structure Overrides where
  config : Option String
  dialect : Option Dialect
  escapeWildcards : Bool
deriving DecidableEq, Repr, Inhabited

structure Settings where
  options : CompileOptions
  dialect : Dialect
  schemas : NameMap Schema

namespace Settings

/-- The settings of a layer under overrides. Escaping can only be switched on from above. -/
def resolve (l : Layer) (o : Overrides) : Settings where
  options := {
    escapeWildcards := o.escapeWildcards ||
      l.escapeWildcards.getD CompileOptions.default.escapeWildcards
    validateFields := l.validateFields.getD CompileOptions.default.validateFields }
  dialect := (o.dialect.or l.dialect).getD .default
  schemas := l.schemas

/-- The schemas as a registry. -/
def registry (s : Settings) : Registry := s.schemas

end Settings

/-- Why a schema cannot be used. -/
inductive SchemaFault
  | badTableName (table : String)
  | noColumns
  | badColumnName (column : String)
  | repeatedColumn (column : String)
  | badSoftDeleteColumn (column : String)
deriving DecidableEq, Repr

/-- What is wrong with a schema, in words, given its name. -/
def SchemaFault.message (name : String) : SchemaFault → String
  | .badTableName table => "Configuration error: schemas." ++ name ++ ".table_name '" ++ table ++
      "' is not a valid table name"
  | .noColumns => "Configuration error: schemas." ++ name ++ " has no columns"
  | .badColumnName column => "Configuration error: schemas." ++ name ++ " column '" ++ column ++
      "' is not a valid column name"
  | .repeatedColumn column => "Configuration error: schemas." ++ name ++ " declares column '" ++
      column ++ "' twice"
  | .badSoftDeleteColumn column => "Configuration error: schemas." ++ name ++
      ".soft_delete_column '" ++ column ++ "' is not a valid column name"

namespace Schema

/-- The first column, from left to right, that is no identifier or repeats an earlier one. -/
def columnFault? (seen : List String) : List Column → Option SchemaFault
  | [] => none
  | c :: cs =>
    if !isIdentifier c.name then some (.badColumnName c.name)
    else if seen.contains c.name then some (.repeatedColumn c.name)
    else columnFault? (c.name :: seen) cs

def softDeleteFault? (s : Schema) : Option SchemaFault :=
  match s.softDeleteColumn with
  | none => none
  | some column => if isIdentifier column then none else some (.badSoftDeleteColumn column)

/-- The first fault of a schema: of the table name, the columns, the flag column. -/
def fault? (s : Schema) : Option SchemaFault :=
  if !isDottedIdentifier s.tableName then some (.badTableName s.tableName)
  else if s.columns.isEmpty then some .noColumns
  else (columnFault? [] s.columns).or s.softDeleteFault?

end Schema

/-- The first schema, in the order of names, that cannot be used. -/
def Settings.fault? (s : Settings) : Option (String × SchemaFault) :=
  s.schemas.entries.findSome? fun e => e.2.fault?.map (e.1, ·)

end SqlFilter
