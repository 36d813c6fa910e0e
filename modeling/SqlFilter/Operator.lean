import SqlFilter.CompileError
import SqlFilter.Expr.Basic
/-! The operators of SQL conditions, and which binary operators stand for them. -/
namespace SqlFilter

/-- What joins two conditions. -/
inductive Connective
  | and
  | or
deriving DecidableEq, Repr

namespace Connective

def token : Connective → String
  | .and => "AND"
  | .or => "OR"

def ofBinary? : BinaryOp → Option Connective
  | .and => some .and
  | .or => some .or
  | _ => none

end Connective

/-- What stands between a field and its parameter. Any other token can be given verbatim. -/
inductive Operator
  | eq | ne | lt | lte | gt | gte
  | like | notLike
  | isIn | notIn
  | any | all
  | verbatim (token : String)
deriving DecidableEq, Repr, Inhabited

namespace Operator

def token : Operator → String
  | .eq => "="
  | .ne => "!="
  | .lt => "<"
  | .lte => "<="
  | .gt => ">"
  | .gte => ">="
  | .like => "LIKE"
  | .notLike => "NOT LIKE"
  | .isIn => "IN"
  | .notIn => "NOT IN"
  | .any => "ANY"
  | .all => "ALL"
  | .verbatim token => token

/-- The operators that have a token of their own. -/
def known : List Operator :=
  [.eq, .ne, .lt, .lte, .gt, .gte, .like, .notLike, .isIn, .notIn, .any, .all]

/-- The operator of a token. -/
def ofToken (token : String) : Operator :=
  (known.find? (·.token == token)).getD (.verbatim token)

/-- Whether the operator tests for equality, as its token says. -/
def isEquality (op : Operator) : Bool :=
  op.token == "="

/-- Whether the operator matches a pattern, as the end of its token says. -/
def isPatternMatch (op : Operator) : Bool :=
  "LIKE".toList.isSuffixOf op.token.toList

/-- The operator of a comparison. -/
def ofComparison? : BinaryOp → Option Operator
  | .eq => some .eq
  | .ne => some .ne
  | .lt => some .lt
  | .lte => some .lte
  | .gt => some .gt
  | .gte => some .gte
  | _ => none

end Operator

/-- The token of a binary operator. Only comparisons and the connectives have one. -/
def BinaryOp.token? (op : BinaryOp) : Except CompileError String :=
  match Operator.ofComparison? op, Connective.ofBinary? op with
  | some operator, _ => .ok operator.token
  | none, some connective => .ok connective.token
  | none, none => .error (.unsupportedOperator ("'" ++ op.sign ++ "' isn't supported"))

end SqlFilter
