import SqlFilter.Expr.Basic
/-! Building predicates: references to fields, captured objects, and connectives. -/
namespace SqlFilter

namespace Expr

/-- A literal. -/
def value {α : Type} [ToValue α] (x : α) : Expr :=
  .constant (toValue x)

/-- A call on a target. -/
def callOn (method : String) (target : Expr) (args : List Expr) : Expr :=
  .call method (some target) args

/-- A call whose receiver is among its arguments. -/
def callStatic (method : String) (args : List Expr) : Expr :=
  .call method none args

def both (l r : Expr) : Expr := .binary .and l r

def either (l r : Expr) : Expr := .binary .or l r

instance : AndOp Expr := ⟨both⟩
instance : OrOp Expr := ⟨either⟩
instance : Complement Expr := ⟨Expr.not⟩

end Expr

/-- A reference to a field of the record. -/
structure FieldRef where
  path : String
deriving DecidableEq, Repr

def field (path : String) : FieldRef := ⟨path⟩

namespace FieldRef
variable {α : Type} [ToValue α]

/-- The field of that name in a record that the field refers to. -/
def member (f : FieldRef) (name : String) : FieldRef := ⟨f.path ++ "." ++ name⟩

def expr (f : FieldRef) : Expr := .field f.path

/-- Comparison with any expression. -/
def compareTo (f : FieldRef) (op : BinaryOp) (value : Expr) : Expr := .binary op f.expr value

def eq (f : FieldRef) (x : α) : Expr := f.compareTo .eq (.value x)
def ne (f : FieldRef) (x : α) : Expr := f.compareTo .ne (.value x)
def lt (f : FieldRef) (x : α) : Expr := f.compareTo .lt (.value x)
def lte (f : FieldRef) (x : α) : Expr := f.compareTo .lte (.value x)
def gt (f : FieldRef) (x : α) : Expr := f.compareTo .gt (.value x)
def gte (f : FieldRef) (x : α) : Expr := f.compareTo .gte (.value x)

def isNull (f : FieldRef) : Expr := f.eq Value.null
def isNotNull (f : FieldRef) : Expr := f.ne Value.null

/-- The field, read as a truth value. -/
def isTrue (f : FieldRef) : Expr := f.expr
def isFalse (f : FieldRef) : Expr := .not f.expr

def startsWith (f : FieldRef) (x : α) : Expr := .callOn "StartsWith" f.expr [.value x]
def endsWith (f : FieldRef) (x : α) : Expr := .callOn "EndsWith" f.expr [.value x]
def contains (f : FieldRef) (x : α) : Expr := .callOn "Contains" f.expr [.value x]

/-- Membership in a collection. -/
def isInCollection (f : FieldRef) (collection : Expr) : Expr :=
  .callOn "Contains" collection [f.expr]

/-- Membership in a literal list. -/
def isIn (f : FieldRef) (xs : List α) : Expr := f.isInCollection (.value xs)

end FieldRef

/-- An object around the predicate, with named values. -/
structure Captured where
  name : String
  members : NameMap Value

def captured (name : String) : Captured := ⟨name, .empty⟩

namespace Captured

/-- The object with one value set. -/
def set {α : Type} [ToValue α] (c : Captured) (name : String) (x : α) : Captured :=
  ⟨c.name, c.members.insert name (toValue x)⟩

def expr (c : Captured) : Expr := .captured c.name c.members

/-- A value of the object. -/
def member (c : Captured) (name : String) : Expr := .member c.expr name

end Captured
end SqlFilter
