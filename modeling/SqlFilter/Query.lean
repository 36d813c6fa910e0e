import SqlFilter.ClauseTree.Basic
/-! Conditions as SQL text with named parameters. -/
namespace SqlFilter

/-- A value bound under a name; in the text the name stands after an at sign. -/
structure Parameter where
  name : String
  value : Value
deriving Inhabited

/-- A condition, with its parameters in the order in which the text mentions them. -/
structure Query where
  sql : String
  parameters : List Parameter
deriving Inhabited

/-- The value of the first parameter of a name. -/
def parameterValue? (parameters : List Parameter) (name : String) : Option Value :=
  (parameters.find? (·.name == name)).map (·.value)

namespace Query

def parameter? (q : Query) (name : String) : Option Value :=
  parameterValue? q.parameters name

/-- Text one after the other, and parameters likewise. -/
def append (q r : Query) : Query :=
  ⟨q.sql ++ r.sql, q.parameters ++ r.parameters⟩

instance : Append Query := ⟨append⟩

/-- Text without parameters. -/
def ofText (sql : String) : Query := ⟨sql, []⟩

end Query

/-- The parameter of a clause: the field with a number. -/
def Clause.parameterName (clause : Clause) (index : Nat) : String :=
  clause.field ++ "_p" ++ toString index

/-- A test for null needs no parameter. Any other clause takes the number given. -/
def Clause.render (escape : Bool) (index : Nat) (clause : Clause) : Query :=
  if clause.value.isNull then
    .ofText (clause.field ++ (if clause.operator.isEquality then " IS NULL" else " IS NOT NULL"))
  else
    let name := clause.parameterName index
    ⟨clause.field ++ " " ++ clause.operator.token ++ " @" ++ name ++
      (if escape && clause.operator.isPatternMatch then " ESCAPE '\\'" else ""),
      [⟨name, clause.value⟩]⟩

namespace ClauseTree

/-- What stands between a child and the one before it. -/
def separator (link : Option Connective) : String :=
  match link with
  | some c => " " ++ c.token ++ " "
  | none => " "

mutual

/-- The text of a node, with parameters numbered from `index`. A group of one needs no
parentheses. No counter is handed on: what follows a node is numbered from the parameters that the
node has written, which a counter along the way would have counted. -/
def render (escape : Bool) (index : Nat) : ClauseTree → Query
  | .leaf _ clause => clause.render escape index
  | .group _ [child] => child.render escape index
  | .group _ [] => .ofText "()"
  | .group _ (child :: rest) =>
    let first := child.render escape index
    let others := renderRest escape (index + first.parameters.length) rest
    .ofText "(" ++ first ++ others ++ .ofText ")"

/-- The children after the first. -/
def renderRest (escape : Bool) (index : Nat) : List ClauseTree → Query
  | [] => .ofText ""
  | child :: rest =>
    let first := child.render escape index
    let others := renderRest escape (index + first.parameters.length) rest
    .ofText (separator child.link) ++ first ++ others

end

/-- The children of the root, which stand without parentheses. -/
def renderChildren (escape : Bool) : List ClauseTree → Query
  | [] => .ofText ""
  | child :: rest =>
    let first := child.render escape 0
    first ++ renderRest escape first.parameters.length rest

/-- The condition that a tree says. -/
def toQuery (escape : Bool) : ClauseTree → Query
  | .leaf _ clause => clause.render escape 0
  | .group _ children => renderChildren escape children

end ClauseTree
end SqlFilter
