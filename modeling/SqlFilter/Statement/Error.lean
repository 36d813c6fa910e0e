import SqlFilter.CompileError
import SqlFilter.Statement.WriteFault
/-! Why a statement cannot be assembled or bound. -/
namespace SqlFilter

/-- What columns are wanted for. -/
inductive ColumnUse
  | select
  | insert
  | update
  | orderBy
deriving DecidableEq, Repr

def ColumnUse.words : ColumnUse → String
  | .select => "select"
  | .insert => "insert"
  | .update => "update"
  | .orderBy => "order by"

/-- Why a row has no scalar for a column. -/
inductive RowFault
  /-- The row is a document of the given sort. -/
  | notAnObject (sort : String)
  /-- The value is an object, or a list with one inside. -/
  | objectAt (column : String)
deriving DecidableEq, Repr

def RowFault.reason : RowFault → String
  | .notAnObject sort => "expected an object, got " ++ sort
  | .objectAt column => "column '" ++ column ++ "' holds a nested object"

inductive StatementError
  | compile (cause : CompileError)
  | missingKey (table : String)
  | compositeKey (table : String) (count : Nat)
  | unknownColumn (column table : String)
  | noColumns (table : String) (use : ColumnUse)
  | softDeleteUnsupported (table : String)
  | missingValue (table column : String)
  | invalidRow (table : String) (fault : RowFault)
  /-- The row could not be written as a document at all. -/
  | unwritableRow (fault : WriteFault)
  | unknownParameter (name : String)
deriving DecidableEq, Repr

namespace StatementError

def message : StatementError → String
  | .compile cause => cause.message
  | .missingKey table => "Table " ++ table ++ " has no key columns"
  | .compositeKey table count => "Table " ++ table ++ " has a composite key (" ++ toString count ++
      " columns); use a predicate instead"
  | .unknownColumn column table => "Unknown column '" ++ column ++ "' for table " ++ table
  | .noColumns table use => "No columns to " ++ use.words ++ " for table " ++ table
  | .softDeleteUnsupported table => "Table " ++ table ++ " does not support soft delete"
  | .missingValue table column =>
    "Row for table " ++ table ++ " has no value for column '" ++ column ++ "'"
  | .invalidRow table fault => "Row for table " ++ table ++ " cannot be bound: " ++ fault.reason
  | .unwritableRow fault => "Serialization error: " ++ fault.text
  | .unknownParameter name => "Unknown parameter @" ++ name

/-- Whether a predicate is at fault. -/
def isCompile : StatementError → Bool
  | .compile _ => true
  | _ => false

end StatementError
end SqlFilter
