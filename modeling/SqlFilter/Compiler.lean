import SqlFilter.ClauseTree.OfExpr
import SqlFilter.Json.Tree
import SqlFilter.Query
import SqlFilter.Schema.Basic
/-! From predicates to conditions, with or without the schema of the table they are about. -/
namespace SqlFilter

/-- `escapeWildcards` makes string matches literal, `validateFields` refuses fields that the schema
does not declare. -/
structure CompileOptions where
  escapeWildcards : Bool
  validateFields : Bool
deriving DecidableEq, Repr

namespace CompileOptions

def default : CompileOptions := ⟨false, true⟩

instance : Inhabited CompileOptions := ⟨default⟩

def fieldNames : List String :=
  ["escape_like_wildcards", "validate_fields"]

def ofJson? (j : Json) : Option CompileOptions := do
  match ← Json.fields? fieldNames j with
  | [escape, validate] => return {
      escapeWildcards := ← Json.optional Json.bool? default.escapeWildcards escape
      validateFields := ← Json.optional Json.bool? default.validateFields validate }
  | _ => none

end CompileOptions

/-- The first clause on a field that the schema does not declare. Fields of referenced records are
columns of other tables and pass. -/
def Schema.undeclared? (s : Schema) (clauses : List Clause) : Option Clause :=
  clauses.find? fun c => !c.nested && !s.hasColumn c.field

/-- Options, with the schema that predicates are about. -/
structure Compiler where
  options : CompileOptions
  schema : Option Schema

namespace Compiler

instance : Inhabited Compiler := ⟨⟨.default, none⟩⟩

/-- Refuses a tree with an undeclared field. -/
def validate (c : Compiler) (tree : ClauseTree) : Except CompileError Unit :=
  match c.schema with
  | none => .ok ()
  | some s =>
    if c.options.validateFields then
      match s.undeclared? tree.clauses with
      | none => .ok ()
      | some clause => .error (.unknownField clause.field s.tableName)
    else .ok ()

/-- The clause tree of a predicate, with its fields checked. -/
def tree (c : Compiler) (e : Expr) : Except CompileError ClauseTree := do
  let t ← e.tree c.options.escapeWildcards
  c.validate t
  return t

/-- The condition that a predicate says. -/
def compile (c : Compiler) (e : Expr) : Except CompileError Query := do
  let t ← c.tree e
  return t.toQuery c.options.escapeWildcards

end Compiler

namespace Expr

/-- The condition of a predicate about any table, with default options. -/
def compile (e : Expr) : Except CompileError Query :=
  Compiler.compile default e

/-- The fields that a predicate tests, each once, in the order in which they first occur. -/
def fieldNames (e : Expr) : Except CompileError (List String) := do
  let t ← e.tree false
  return (t.clauses.map (·.field)).eraseDups

end Expr
end SqlFilter
