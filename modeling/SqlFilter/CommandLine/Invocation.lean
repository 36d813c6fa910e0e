import SqlFilter.Settings.Basic
/-! What a command line asks for. -/
namespace SqlFilter

/-- The statements that the program can be asked for. -/
inductive StatementKind
  | select
  | find
  | first
  | delete
deriving DecidableEq, Repr

namespace StatementKind

def all : List StatementKind := [.select, .find, .first, .delete]

def name : StatementKind → String
  | .select => "Select"
  | .find => "Find"
  | .first => "First"
  | .delete => "Delete"

def word : StatementKind → String
  | .select => "select"
  | .find => "find"
  | .first => "first"
  | .delete => "delete"

/-- Reads the word for a kind in any case. -/
def parse? (s : String) : Option StatementKind :=
  all.find? (·.word == Text.lower s)

end StatementKind

inductive Command
  /-- The condition of a predicate, with its fields checked if an entity is named. -/
  | compile (input : String) (entity : Option String) (positional : Bool)
  /-- A statement for an entity. -/
  | statement (kind : StatementKind) (entity : String) (predicate : Option String)
      (orderBy : List String) (descending positional : Bool)
  /-- The configured entities. -/
  | schemas
deriving DecidableEq, Repr

structure Invocation where
  overrides : Overrides
  command : Command
deriving DecidableEq, Repr

/-- Why a command line asks for nothing that can be done. Two of them ask for something else. -/
inductive UsageError
  | unknownArgument (argument : String)
  | invalidSubcommand (word : String)
  | missingSubcommand
  | missingRequiredArgument
  | missingValue (argument : String)
  | invalidFlagValue (argument value : String)
  | refusedValue (argument value reason : String)
  | argumentConflict (argument : String)
  | tooManyValues (argument : String)
  | help
  | version
  | helpForNothing
deriving DecidableEq, Repr

namespace UsageError

def message : UsageError → String
  | .unknownArgument argument => "unexpected argument '" ++ argument ++ "' found"
  | .invalidSubcommand word => "unrecognized subcommand '" ++ word ++ "'"
  | .missingSubcommand => "a subcommand is required but none was provided"
  | .missingRequiredArgument => "required arguments were not provided"
  | .missingValue argument =>
    "a value is required for '" ++ argument ++ "' but none was supplied"
  | .invalidFlagValue argument value =>
    "invalid value '" ++ value ++ "' for '" ++ argument ++ "': true or false is expected"
  | .refusedValue argument value reason =>
    "invalid value '" ++ value ++ "' for '" ++ argument ++ "': " ++ reason
  | .argumentConflict argument =>
    "the argument '" ++ argument ++ "' cannot be used multiple times"
  | .tooManyValues argument => "unexpected value for '" ++ argument ++ "'"
  | .help | .version | .helpForNothing => ""

end UsageError
end SqlFilter
