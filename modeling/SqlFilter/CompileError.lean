/-! Why a predicate cannot be compiled. -/
namespace SqlFilter

inductive CompileError
  /-- An expression of a shape that has no meaning at its place. -/
  | unsupportedExpression (fragment : String)
  /-- An operator without a counterpart in SQL. -/
  | unsupportedOperator (fragment : String)
  /-- A method without a counterpart in SQL. -/
  | unsupportedMethod (method : String)
  /-- A field path of more than two segments. -/
  | unsupportedNesting (path : String)
  /-- A field that the table does not declare. -/
  | unknownField (field table : String)
deriving DecidableEq, Repr

namespace CompileError

def message : CompileError → String
  | .unsupportedExpression fragment => "Unsupported expression: " ++ fragment
  | .unsupportedOperator fragment => "Unsupported operator: " ++ fragment
  | .unsupportedMethod method =>
    "Unsupported method: '" ++ method ++ "' method is not supported"
  | .unsupportedNesting path =>
    "Unsupported nesting: '" ++ path ++ "' (only one degree of nesting is supported)"
  | .unknownField field table => "Unknown field '" ++ field ++ "' for table " ++ table

/-- The part of the predicate that the error is about. -/
def fragment : CompileError → String
  | .unsupportedExpression f | .unsupportedOperator f | .unsupportedMethod f
  | .unsupportedNesting f | .unknownField f _ => f

end CompileError
end SqlFilter
