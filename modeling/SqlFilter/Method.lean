import SqlFilter.Operator
import SqlFilter.Text.Basic
/-! The methods that predicates may call, and the patterns that string matches bind. -/
namespace SqlFilter

/-- The known methods. `stringContains` looks for a part of a text, `contains` and `elementOf` for
an element of a collection. -/
inductive Method
  | startsWith
  | endsWith
  | stringContains
  | contains
  | elementOf
  | any
  | all
deriving DecidableEq, Repr

namespace Method

def name : Method → String
  | .startsWith => "StartsWith"
  | .endsWith => "EndsWith"
  | .stringContains => "StringContains"
  | .contains => "Contains"
  | .elementOf => "Exists"
  | .any => "Any"
  | .all => "All"

def known : List Method :=
  [.startsWith, .endsWith, .stringContains, .contains, .elementOf, .any, .all]

def ofName (name : String) : Except CompileError Method :=
  match known.find? (·.name == name) with
  | some method => .ok method
  | none => .error (.unsupportedMethod name)

/-- Whether the method matches a text against a pattern. -/
def isPatternMatch : Method → Bool
  | .startsWith | .endsWith | .stringContains => true
  | _ => false

/-- The SQL operator of a call, or of its negation. -/
def operator : Method → Bool → Operator
  | .any, _ => .any
  | .all, _ => .all
  | .startsWith, negated | .endsWith, negated | .stringContains, negated =>
    if negated then .notLike else .like
  | .contains, negated | .elementOf, negated => if negated then .notIn else .isIn

end Method

/-- Puts a backslash before each character that a pattern would not take literally. The backslashes
of the text come first, so that those put before wildcards are not doubled again. -/
def escapePattern (s : String) : String :=
  let escaped := Text.replaceChar s '\\' "\\\\"
  Text.replaceChar (Text.replaceChar escaped '%' "\\%") '_' "\\_"

/-- The text that a method looks for, with wildcards where anything may stand. -/
def Method.wildcards (method : Method) (text : String) : Except CompileError String :=
  match method with
  | .startsWith => .ok (text ++ "%")
  | .endsWith => .ok ("%" ++ text)
  | .stringContains => .ok ("%" ++ text ++ "%")
  | other => .error (.unsupportedMethod other.name)

/-- The pattern that a string match binds. Null is matched like the empty text; with `escape` the
value is matched literally. -/
def Method.pattern (method : Method) (value : Value) (escape : Bool) :
    Except CompileError String :=
  match value.items? with
  | some _ => .error (.unsupportedExpression (method.name ++ " cannot match a list value"))
  | none => method.wildcards (if escape then escapePattern value.display else value.display)

end SqlFilter
