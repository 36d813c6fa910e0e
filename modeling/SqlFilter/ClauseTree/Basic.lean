import SqlFilter.Operator
/-! Conditions as trees of clauses. -/
namespace SqlFilter

/-- One test of one field. `nested` marks a field of a referenced record. -/
structure Clause where
  field : String
  operator : Operator
  value : Value
  nested : Bool
deriving Inhabited

/-- Clauses and groups of them. Each node holds the connective between it and the sibling before it,
if it has one. -/
inductive ClauseTree
  | leaf (link : Option Connective) (clause : Clause)
  | group (link : Option Connective) (children : List ClauseTree)
deriving Inhabited

namespace ClauseTree

def link : ClauseTree → Option Connective
  | .leaf link _ | .group link _ => link

def setLink (link : Option Connective) : ClauseTree → ClauseTree
  | .leaf _ clause => .leaf link clause
  | .group _ children => .group link children

/-- The connective before the last child. -/
def lastLink (children : List ClauseTree) : Option Connective :=
  children.getLast?.bind link

mutual

/-- The clauses from left to right. -/
def clauses : ClauseTree → List Clause
  | .leaf _ clause => [clause]
  | .group _ children => clausesOf children

def clausesOf : List ClauseTree → List Clause
  | [] => []
  | t :: ts => t.clauses ++ clausesOf ts

end

/-- Whether an alternative stands at the top level. -/
def hasTopLevelOr : ClauseTree → Bool
  | .leaf _ _ => false
  | .group _ children => children.any (·.link == some .or)

/-- The children of a group that are to follow a sibling after a connective. -/
def relinked (op : Connective) : List ClauseTree → List ClauseTree
  | [] => []
  | t :: ts => t.setLink (some op) :: ts

/-- The group of both sides of a connective. A side that ends in the same connective is merged into
the group; any other group stays one child. The right side is already linked by the connective. -/
def join (op : Connective) (left right : ClauseTree) : ClauseTree :=
  match left, right with
  | .group llink ls, .leaf rlink r =>
    if lastLink ls = some op then .group llink (ls ++ [.leaf rlink r])
    else .group none [.group llink ls, .leaf rlink r]
  | .group llink ls, .group rlink rs =>
    if lastLink ls = some op then
      if lastLink rs = some op then .group llink (ls ++ relinked op rs)
      else .group llink (ls ++ [.group rlink rs])
    else if lastLink rs = some op then .group none (.group llink ls :: relinked op rs)
    else .group none [.group llink ls, .group rlink rs]
  | .leaf llink l, .group rlink rs =>
    if lastLink rs = some op then .group none (.leaf llink l :: relinked op rs)
    else .group none [.leaf llink l, .group rlink rs]
  | .leaf llink l, .leaf rlink r => .group none [.leaf llink l, .leaf rlink r]

end ClauseTree
end SqlFilter
