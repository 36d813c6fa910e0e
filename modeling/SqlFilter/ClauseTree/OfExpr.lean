import SqlFilter.ClauseTree.Basic
import SqlFilter.Method
import SqlFilter.Operand
/-! The clause tree of a predicate. A predicate is a comparison, a string match, a membership test, a
field read as a truth value, or two predicates with a connective between them. -/
namespace SqlFilter.Expr

/-- The clause on a field. -/
def clauseOn (field : FieldPath) (operator : Operator) (value : Value) : Clause :=
  ⟨field.name, operator, value, field.nested⟩

/-- A field, as such or negated. -/
def truthClause (e : Expr) (value : Bool) : Except CompileError Clause := do
  let field ← e.fieldPath
  return clauseOn field .eq (.bool value)

/-- A field compared with a value. Null can only be equal or unequal, and a list is no match for a
comparison at all. -/
def comparisonClause (op : BinaryOp) (left right : Expr) : Except CompileError Clause :=
  match Operator.ofComparison? op with
  | none => .error (.unsupportedOperator ("'" ++ op.sign ++ "' isn't supported"))
  | some operator => do
    let field ← left.fieldPath
    let value ← right.operand
    match value with
    | .null =>
      if op = .eq ∨ op = .ne then return clauseOn field operator value
      else throw (.unsupportedOperator
        ("'" ++ op.sign ++ "' cannot compare " ++ left.display ++ " against null"))
    | .list _ => throw (.unsupportedExpression (left.display ++ " " ++ op.sign ++ " " ++
        right.display ++ " compares against a collection; use a membership test"))
    | _ => return clauseOn field operator value

def missingArgument (call : Expr) : CompileError :=
  .unsupportedExpression (call.display ++ " is missing an argument")

/-- A field matched against a pattern. -/
def matchClause (escape : Bool) (method : Method) (negated : Bool) (call receiver : Expr)
    (args : List Expr) : Except CompileError Clause := do
  let field ← receiver.fieldPath
  match args with
  | [] => throw (missingArgument call)
  | arg :: _ =>
    let value ← arg.operand
    let pattern ← method.pattern value escape
    return clauseOn field (method.operator negated) (.text pattern)

/-- The collection and the member of a membership test. Without a target the collection is the first
argument, and the member the last one that reads a field. -/
def membershipParts? : Option Expr → List Expr → Option (Expr × Expr)
  | some collection, arg :: _ => some (collection, arg)
  | some _, [] => none
  | none, args =>
    match args, args.reverse.find? isFieldRead with
    | collection :: _, some element => some (collection, element)
    | _, _ => none

/-- A field tested for membership in a collection. -/
def membershipClause (method : Method) (negated : Bool) (call : Expr) (target : Option Expr)
    (args : List Expr) : Except CompileError Clause :=
  match membershipParts? target args with
  | none => .error (missingArgument call)
  | some (collection, element) => do
    let field ← element.fieldPath
    let items ← collection.collection
    return clauseOn field (method.operator negated) (.list items)

/-- What a method does on a target: a search in a text, if the target reads a field. -/
def methodOn (method : Method) (target : Option Expr) : Method :=
  match method, target with
  | .contains, some t | .elementOf, some t => if t.isFieldRead then .stringContains else method
  | _, _ => method

/-- The clause of a call, or of its negation. -/
def callClause (escape negated : Bool) (method : String) (target : Option Expr)
    (args : List Expr) : Except CompileError Clause := do
  let kind ← Method.ofName method
  let unsupported := CompileError.unsupportedMethod method
  match methodOn kind target with
  | .startsWith | .endsWith | .stringContains =>
    match target with
    | none => throw unsupported
    | some receiver =>
      if receiver.isFieldRead then
        matchClause escape (methodOn kind target) negated (.call method target args) receiver args
      else throw unsupported
  | .contains | .elementOf =>
    membershipClause kind negated (.call method target args) target args
  | .any | .all => throw unsupported

/-- The clause of a predicate that joins no others. -/
def clause (escape : Bool) (e : Expr) : Except CompileError Clause :=
  match e with
  | .field _ | .member _ _ => e.truthClause true
  | .binary op left right => comparisonClause op left right
  | .call method target args => callClause escape false method target args
  | .not (.call method target args) => callClause escape true method target args
  | .not inner =>
    if inner.isFieldRead then inner.truthClause false
    else .error (.unsupportedExpression (e.display ++
      " (negation is only supported on method calls and boolean fields)"))
  | .constant _ | .captured _ _ =>
    .error (.unsupportedExpression (e.display ++ " is not a predicate"))

/-- The clause tree of a predicate, to stand after the given link. -/
def linkedTree (escape : Bool) (link : Option Connective) : Expr → Except CompileError ClauseTree
  | .binary op left right =>
    match Connective.ofBinary? op with
    | some connective => do
      let l ← linkedTree escape none left
      let r ← linkedTree escape (some connective) right
      return (ClauseTree.join connective l r).setLink link
    | none => return .leaf link (← clause escape (.binary op left right))
  | e => return .leaf link (← clause escape e)

/-- The clause tree of a predicate. -/
def tree (escape : Bool) (e : Expr) : Except CompileError ClauseTree :=
  linkedTree escape none e

end SqlFilter.Expr
