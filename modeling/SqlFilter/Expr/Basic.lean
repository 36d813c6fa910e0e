import SqlFilter.NameMap
import SqlFilter.Value.Basic
/-! Predicates over one record, as expressions. -/
namespace SqlFilter

/-- What joins the two sides of a binary expression. -/
inductive BinaryOp
  | eq | ne | lt | lte | gt | gte
  | and | or
  | add | subtract | multiply | divide | modulo
  | bitAnd | bitOr | xor
deriving DecidableEq, Repr

namespace BinaryOp

def all : List BinaryOp :=
  [.eq, .ne, .lt, .lte, .gt, .gte, .and, .or, .add, .subtract, .multiply, .divide, .modulo,
    .bitAnd, .bitOr, .xor]

/-- The word for an operator in documents. -/
def name : BinaryOp → String
  | .eq => "eq"
  | .ne => "ne"
  | .lt => "lt"
  | .lte => "lte"
  | .gt => "gt"
  | .gte => "gte"
  | .and => "and"
  | .or => "or"
  | .add => "add"
  | .subtract => "subtract"
  | .multiply => "multiply"
  | .divide => "divide"
  | .modulo => "modulo"
  | .bitAnd => "bit_and"
  | .bitOr => "bit_or"
  | .xor => "xor"

def ofName? (s : String) : Option BinaryOp :=
  all.find? (·.name == s)

/-- The sign for an operator in displayed expressions. -/
def sign : BinaryOp → String
  | .eq => "=="
  | .ne => "!="
  | .lt => "<"
  | .lte => "<="
  | .gt => ">"
  | .gte => ">="
  | .and => "&&"
  | .or => "||"
  | .add => "+"
  | .subtract => "-"
  | .multiply => "*"
  | .divide => "/"
  | .modulo => "%"
  | .bitAnd => "&"
  | .bitOr => "|"
  | .xor => "^"

theorem ofName?_name (op : BinaryOp) : ofName? op.name = some op := by
  cases op <;> decide

end BinaryOp

/-- A predicate, or a part of one.

`field` reads a field of the record, `constant` is a literal, `captured` an object around the
predicate with named values, and `member` a member of either. A `call` without target takes its
receiver from its arguments. -/
inductive Expr
  | field (path : String)
  | constant (value : Value)
  | captured (name : String) (members : NameMap Value)
  | member (target : Expr) (name : String)
  | binary (op : BinaryOp) (left right : Expr)
  | not (operand : Expr)
  | call (method : String) (target : Option Expr) (args : List Expr)
deriving Inhabited

namespace Expr

/-- A literal as displayed: texts in quotes, null as a word. -/
def displayConstant : Value → String
  | .text s => "\"" ++ s ++ "\""
  | .null => "null"
  | v => v.display

mutual

/-- The text of an expression in messages. -/
def display : Expr → String
  | .field path => "x." ++ path
  | .constant v => displayConstant v
  | .captured name _ => name
  | .member target name => target.display ++ "." ++ name
  | .binary op left right =>
    "(" ++ left.display ++ " " ++ op.sign ++ " " ++ right.display ++ ")"
  | .not operand => "!" ++ operand.display
  | .call method target args =>
    displayTarget target ++ method ++ "(" ++ ", ".intercalate (displayArgs args) ++ ")"

def displayTarget : Option Expr → String
  | none => ""
  | some target => target.display ++ "."

def displayArgs : List Expr → List String
  | [] => []
  | e :: es => e.display :: displayArgs es

end

instance : ToString Expr := ⟨display⟩

end Expr
end SqlFilter
