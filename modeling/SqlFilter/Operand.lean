import SqlFilter.CompileError
import SqlFilter.Expr.Basic
import SqlFilter.Identifier
/-! What expressions stand for as operands: a field of the record, or a literal value. -/
namespace SqlFilter

/-- A field as SQL names it. The field of a referenced record is named by both segments of its path
run together. -/
structure FieldPath where
  name : String
  nested : Bool
deriving DecidableEq, Repr

namespace Expr

/-- The segments of a field read, if the expression has the form of one. A member name is one
segment, whatever it contains. -/
def segments? : Expr → Option (List String)
  | .field path => some (dottedSegments path)
  | .member target name => target.segments?.map (· ++ [name])
  | _ => none

/-- Whether the expression has the form of a field read. -/
def isFieldRead (e : Expr) : Bool :=
  e.segments?.isSome

end Expr

/-- The field of a path with the given segments: one or two identifiers. -/
def FieldPath.ofSegments (segments : List String) : Except CompileError FieldPath :=
  let path := ".".intercalate segments
  if segments.all isIdentifier then
    if 2 < segments.length then .error (.unsupportedNesting path)
    else .ok ⟨String.join segments, segments.length == 2⟩
  else .error (.unsupportedExpression ("invalid field path '" ++ path ++ "'"))

/-- The field that an expression reads. -/
def Expr.fieldPath (e : Expr) : Except CompileError FieldPath :=
  match e.segments? with
  | none => .error (.unsupportedExpression (e.display ++ " is not a record field"))
  | some segments => FieldPath.ofSegments segments

namespace Expr

/-- The value of a literal, or of a member of a captured object. -/
def operand (e : Expr) : Except CompileError Value :=
  match e with
  | .constant v => .ok v
  | .member (.captured name members) key =>
    match members.find? key with
    | some v => .ok v
    | none => .error (.unsupportedExpression
        ("captured '" ++ name ++ "' has no member '" ++ key ++ "'"))
  | .member (.member _ _) _ => .error (.unsupportedExpression (e.display ++
      " (only one level of member access on a captured value is supported)"))
  | _ => .error (.unsupportedExpression (e.display ++ " cannot be evaluated to a value"))

/-- The elements of a value that must be a list. -/
def collection (e : Expr) : Except CompileError (List Value) := do
  let v ← e.operand
  match v with
  | .list items => return items
  | _ => throw (.unsupportedExpression
      (e.display ++ " is a " ++ v.typeName ++ ", not a collection"))

end Expr
end SqlFilter
