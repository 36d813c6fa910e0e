import SqlFilter.Command.Answer
import SqlFilter.CommandLine.Parse
import SqlFilter.Host.EnvironmentFile
/-! Whole runs of the program on some host, and how they end. -/
namespace SqlFilter

inductive Outcome
  | misused (error : UsageError)
  | failed (warnings : List String) (failure : Failure)
  | done (warnings : List String) (text : String)

/-- The name and number of this program. -/
def versionLine : String := "predsql 0.3.1"

def usage : String :=
  "Usage: predsql [OPTIONS] <compile|statement|schemas> [ARGUMENTS]"

namespace Outcome

/-- Zero for a result, and for help or the version where they are asked for. -/
def exitCode : Outcome → UInt32
  | .misused .help | .misused .version => 0
  | .misused _ => 2
  | .failed _ _ => 1
  | .done _ _ => 0

/-- What goes to standard output. -/
def output : Outcome → String
  | .misused .help => usage ++ "\n"
  | .misused .version => versionLine ++ "\n"
  | .misused _ | .failed _ _ => ""
  | .done _ text => text ++ "\n"

def warnings : Outcome → List String
  | .misused _ => []
  | .failed warnings _ | .done warnings _ => warnings

/-- What is said of a failed command. -/
def failure? : Outcome → Option String
  | .failed _ failure => some failure.report
  | _ => none

/-- What goes to standard error. -/
def complaint (o : Outcome) : String :=
  let warned := o.warnings.map fun w =>
    "WARN Unknown fields in config file (possible typos) fields=" ++ w ++ "\n"
  let last := match o with
    | .misused .help | .misused .version | .done _ _ => ""
    | .misused .helpForNothing => usage ++ "\n"
    | .misused e => "error: " ++ e.message ++ "\n\n" ++ usage ++ "\n"
    | .failed _ failure => "\nError: " ++ failure.report ++ "\n\n"
  String.join warned ++ last

end Outcome

namespace Host
variable {m : Type → Type} [Monad m]

/-- The environment variables that stand in for options. -/
def commandLineEnvironment (host : Host m) : m CommandLine.Environment := do
  return ⟨← host.environment CommandLine.configVariable,
    ← host.environment CommandLine.dialectVariable,
    ← host.environment CommandLine.escapeLikeVariable⟩

/-- Runs the program on its arguments. -/
def run (host : Host m) (arguments : List String) : m Outcome := do
  let host ← host.withEnvironmentFile
  match CommandLine.parse (← host.commandLineEnvironment) arguments with
  | .error e => return .misused e
  | .ok invocation =>
    match ← invocation.perform host with
    | (warnings, .error failure) => return .failed warnings failure
    | (warnings, .ok text) => return .done warnings text

end Host
end SqlFilter
