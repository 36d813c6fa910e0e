import SqlFilter.Command.Statement
import SqlFilter.Expr.Json
import SqlFilter.Json.Writer
/-! What commands answer, with the documents that they read. -/
namespace SqlFilter

/-- The path that stands for standard input. -/
def standardInputPath : String := "-"

namespace Host
variable {m : Type → Type} [Monad m]

/-- The text of a document, from a file or from standard input. -/
def readDocument (host : Host m) (path : String) : ExceptT Failure m String := do
  if path = standardInputPath then
    match decodeText (← host.readStandardInput) with
    | .ok text => return text
    | .error fault => throw (.unreadableStandardInput fault)
  else
    let resolved := host.expandPath path
    match ← host.readText resolved with
    | .ok text => return text
    | .error fault => throw (.unreadableFile resolved fault)

/-- The predicate of a document. -/
def readPredicate (host : Host m) (path : String) : ExceptT Failure m Expr := do
  let text ← host.readDocument path
  match (Json.parse? text).bind Expr.ofJson? with
  | some e => return e
  | none => throw (.malformedPredicate path)

end Host

/-- What is told of a configured entity. -/
structure EntitySummary where
  entity : String
  table : String
  columns : List String
  keys : List String
deriving DecidableEq, Repr

namespace EntitySummary

def ofSchema (entity : String) (s : Schema) : EntitySummary :=
  ⟨entity, s.tableName, s.columns.map (·.name), s.keyColumns.map (·.name)⟩

def toJson (e : EntitySummary) : Json :=
  .object [("entity", .text e.entity), ("table", .text e.table), ("columns", .texts e.columns),
    ("keys", .texts e.keys)]

end EntitySummary

/-- The entities of a registry in the order of their names, each with the schema found under it. -/
def Registry.summaries (r : Registry) : List EntitySummary :=
  let schemas := r.names.filterMap r.find?
  (r.names.zip schemas).map fun e => .ofSchema e.1 e.2

namespace Settings
variable {m : Type → Type} [Monad m]

/-- The answer to a command as a document. A condition reads its predicate before it asks for an
entity, a statement after that. -/
def answer (s : Settings) (host : Host m) : Command → ExceptT Failure m Json
  | .compile input entity positional => do
    let e ← host.readPredicate input
    s.statementJson positional (← s.condition entity e)
  | .statement kind entity predicate orderBy descending positional => do
    let t ← s.table entity
    let e ← predicate.mapM host.readPredicate
    s.statementJson positional (← t.statement kind e orderBy descending)
  | .schemas => return .list (s.registry.summaries.map EntitySummary.toJson)

end Settings

/-- The output of an invocation, with the warnings on its way. -/
def Invocation.perform {m : Type → Type} [Monad m] (i : Invocation) (host : Host m) :
    m (List String × Except Failure String) := do
  let (warnings, settings) ← Settings.load host i.overrides
  match settings with
  | .error cause => return (warnings, .error (.settings cause))
  | .ok s => return (warnings, (← (s.answer host i.command).run).map Json.indented)

end SqlFilter
