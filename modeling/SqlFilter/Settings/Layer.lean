import SqlFilter.Compiler
import SqlFilter.Dialect
import SqlFilter.Schema.Json
/-! One configuration file, and how several are laid over each other. -/
namespace SqlFilter

/-- What a configuration file sets. Anything may be left unset.

A file sets the two options of the compiler in a section of their own. Here they stand beside the
other settings, without the section: sections are merged option by option, so one that is absent and
one that sets nothing come to the same. So do no schemas and an empty set of them. -/
structure Layer where
  escapeWildcards : Option Bool
  validateFields : Option Bool
  dialect : Option Dialect
  schemas : NameMap Schema

namespace Layer

/-- The layer that sets nothing. -/
def empty : Layer := ⟨none, none, none, .empty⟩

instance : Inhabited Layer := ⟨empty⟩

/-- What the upper layer sets counts, and schemas are added one by one; each replaces any of its
name as a whole. -/
def merge (base upper : Layer) : Layer where
  escapeWildcards := upper.escapeWildcards.or base.escapeWildcards
  validateFields := upper.validateFields.or base.validateFields
  dialect := upper.dialect.or base.dialect
  schemas := base.schemas.union upper.schemas

def fieldNames : List String :=
  ["compiler", "dialect", "schemas"]

/-- The settings of the compiler. As a list there must be both. -/
def compilerOfWritten? (w : Json.Written) : Option (Option Bool × Option Bool) := do
  match ← w.fields? CompileOptions.fieldNames with
  | [escape, validate] =>
    if w.items?.isSome && validate.isNone then none
    else
      let flag := Json.optional (Json.Written.read? (Json.nullable Json.bool?)) none
      return (← flag escape, ← flag validate)
  | _ => none

/-- Schemas under their names; of a repeated name the last counts. -/
def schemasOfWritten? (w : Json.Written) : Option (NameMap Schema) := do
  let entries ← (← w.members?).mapM fun m => (Schema.ofWritten? m.2).map (m.1, ·)
  return .ofList entries

/-- What a configuration file sets by its members. -/
def ofMembers? (members : List (String × Json.Written)) : Option Layer := do
  match ← Json.namedFields? fieldNames members with
  | [compiler, dialect, schemas] =>
    let compiler ← Json.optional (Json.Written.nullable compilerOfWritten?) none compiler
    let (escape, validate) := compiler.getD (none, none)
    let schemas ← Json.optional (Json.Written.nullable schemasOfWritten?) none schemas
    return {
      escapeWildcards := escape
      validateFields := validate
      dialect := ← Json.optional (Json.Written.read? (Json.nullable Dialect.ofJson?)) none dialect
      schemas := schemas.getD .empty }
  | _ => none

/-- The members of a configuration file that mean nothing, in its order. They must be documents
nonetheless. -/
def unknownMembers? (members : List (String × Json.Written)) : Option (List String) :=
  let unknown := members.filter (! fieldNames.contains ·.1)
  if unknown.all fun m => (m.2.document? (Json.maxDepth - 1)).isSome then
    some (unknown.map Prod.fst).eraseDups
  else none

end Layer
end SqlFilter
