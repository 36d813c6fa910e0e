import SqlFilter.Json.Tree
import SqlFilter.Text.Basic
import SqlFilter.Text.Lowercase
/-! What differs between databases. -/
namespace SqlFilter

inductive Dialect
  | sqlite
  | postgres
  | sqlServer
deriving DecidableEq, Repr

namespace Dialect

/-- Named parameters are at home here, so it is the dialect where none is chosen. -/
def default : Dialect := .sqlServer

instance : Inhabited Dialect := ⟨default⟩

def all : List Dialect := [.sqlite, .postgres, .sqlServer]

def name : Dialect → String
  | .sqlite => "sqlite"
  | .postgres => "postgres"
  | .sqlServer => "sqlserver"

/-- The dialect of exactly that name. -/
def ofName? (s : String) : Option Dialect :=
  all.find? (·.name == s)

/-- A dialect is given by its name, or by an object of that one name with nothing in it. -/
def ofJson? : Json → Option Dialect
  | .text s => ofName? s
  | .object [(s, .null)] => ofName? s
  | _ => none

/-- Reads a name in any case, blanks around it, or one of two other names. What cannot be read is
returned in lower case. -/
def parse (s : String) : Except String Dialect :=
  let word := Text.lower (Text.trim s)
  if word = "postgresql" then .ok .postgres
  else if word = "mssql" then .ok .sqlServer
  else match ofName? word with
    | some d => .ok d
    | none => .error word

/-- What is said of a word that names no dialect. -/
def unknownMessage (word : String) : String :=
  "Unknown dialect '" ++ word ++ "' (expected sqlite, postgres or sqlserver)"

/-- The mark for the parameter at a position, counted from one. -/
def placeholder (d : Dialect) (index : Nat) : String :=
  match d with
  | .sqlite => "?"
  | .postgres => "$" ++ toString index
  | .sqlServer => "@p" ++ toString index

/-- The query for the first row of a query. -/
def firstRow (d : Dialect) (select : String) : String :=
  match d with
  | .sqlite | .postgres => select ++ " LIMIT 1"
  | .sqlServer =>
    match select.toList with
    | 'S' :: 'E' :: 'L' :: 'E' :: 'C' :: 'T' :: ' ' :: rest =>
      "SELECT TOP 1 " ++ String.ofList rest
    | _ => "SELECT TOP 1 * FROM (" ++ select ++ ") AS first_row"

/-- What stands for a list without elements, which no database takes as such. -/
def emptyList (_ : Dialect) : String :=
  "(SELECT NULL WHERE 1 = 0)"

end Dialect
end SqlFilter
