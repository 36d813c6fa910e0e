import SqlFilter.CommandLine.Invocation
import SqlFilter.Settings.ConfigFile
import SqlFilter.Statement.Error
/-! Why a command has no result. -/
namespace SqlFilter

inductive Failure
  | settings (cause : SettingsError)
  | unreadableFile (path : String) (fault : ReadFault)
  | unreadableStandardInput (fault : ReadFault)
  | malformedPredicate (path : String)
  | unknownEntity (entity : String) (configured : List String)
  | predicateNeeded (kind : StatementKind)
  | statement (cause : StatementError)
deriving DecidableEq, Repr

namespace Failure

def message : Failure → String
  | .settings cause => cause.message
  | .unreadableFile path _ => "Failed to read " ++ path
  | .unreadableStandardInput _ => "Failed to read from stdin"
  | .malformedPredicate path => "Failed to parse predicate: " ++ path
  | .unknownEntity entity configured =>
    "Unknown entity '" ++ entity ++ "' (configured: " ++ ", ".intercalate configured ++ ")"
  | .predicateNeeded kind => "'" ++ kind.name ++ "' needs a predicate (--predicate)"
  | .statement cause => cause.message

/-- What is behind a failure, if anything is known. -/
def cause? : Failure → Option String
  | .settings cause => cause.cause?
  | .unreadableFile _ fault | .unreadableStandardInput fault => some fault.message
  | _ => none

/-- The message, with what is behind it. -/
def report (f : Failure) : String :=
  match f.cause? with
  | some cause => f.message ++ ": " ++ cause
  | none => f.message

end Failure
end SqlFilter
