import SqlFilter.Command.Failure
import SqlFilter.Statement.Assembly
/-! What commands make of predicates: conditions and statements. -/
namespace SqlFilter
namespace Settings

/-- The schema of an entity. -/
def schema (s : Settings) (entity : String) : Except Failure Schema :=
  match s.registry.find? entity with
  | some schema => .ok schema
  | none => .error (.unknownEntity entity s.registry.names)

/-- The table of an entity. -/
def table (s : Settings) (entity : String) : Except Failure Table := do
  return ⟨← s.schema entity, s.dialect, s.options⟩

/-- The condition that a predicate says, about an entity if one is named. -/
def condition (s : Settings) (entity : Option String) (e : Expr) : Except Failure Statement := do
  let schema ← match entity with
    | some entity => some <$> s.schema entity
    | none => pure none
  match Compiler.compile ⟨s.options, schema⟩ e with
  | .ok q => return ⟨q.sql, q.parameters⟩
  | .error cause => throw (.statement (.compile cause))

/-- The document of a statement, in its positional form if that is asked for. -/
def statementJson (s : Settings) (positional : Bool) (t : Statement) : Except Failure Json :=
  if positional then
    match t.toPositional s.dialect with
    | .ok p => .ok p.toJson
    | .error cause => .error (.statement cause)
  else .ok t.toJson

end Settings

namespace Table

/-- A statement of some kind. Only `select` and `first` reach all rows if there is no predicate. -/
def statement (t : Table) (kind : StatementKind) (predicate : Option Expr) (orderBy : List String)
    (descending : Bool) : Except Failure Statement :=
  match kind, predicate with
  | .select, none => t.selectAll.mapError .statement
  | .select, some e => (t.findAll e).mapError .statement
  | .find, some e => (t.find e).mapError .statement
  | .delete, some e => (t.deleteWhere e).mapError .statement
  | .first, predicate => (t.findFirstByOrder orderBy predicate descending).mapError .statement
  | .find, none => .error (.predicateNeeded .find)
  | .delete, none => .error (.predicateNeeded .delete)

end Table
end SqlFilter
