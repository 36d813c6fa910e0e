import SqlFilter.Dialect
import SqlFilter.Identifier
import SqlFilter.Query
import SqlFilter.Statement.Error
import SqlFilter.Value.Json
/-! Statements with named parameters, and the same with parameters bound by position. -/
namespace SqlFilter

structure Statement where
  sql : String
  parameters : List Parameter
deriving Inhabited

def Parameter.toJson (p : Parameter) : Json :=
  .object [("name", .text p.name), ("value", p.value.toJson)]

namespace Statement

def parameter? (s : Statement) (name : String) : Option Value :=
  parameterValue? s.parameters name

def toJson (s : Statement) : Json :=
  .object [("sql", .text s.sql), ("parameters", .list (s.parameters.map Parameter.toJson))]

instance : ToString Statement := ⟨sql⟩

end Statement

/-- SQL text with placeholders, and the values in the order in which they are bound. -/
structure PositionalStatement where
  sql : String
  values : List Value
deriving Inhabited

namespace Positional

/-- A piece of SQL text: a character that stays, or a reference to a parameter. -/
inductive Piece
  | char (c : Char)
  | reference (name : List Char)
deriving DecidableEq, Repr

/-- Where a scan stands: in the open, within quotes, or within a name that has been noted. -/
inductive Place
  | plain
  | quoted
  | name
deriving DecidableEq, Repr

/-- The pieces of a text. Within quotes everything stays. In the open an at sign makes a reference
with the longest run of identifier characters after it; if there is none, the sign stays. -/
def scan : Place → List Char → List Piece
  | _, [] => []
  | .quoted, c :: cs => .char c :: scan (if c = '\'' then .plain else .quoted) cs
  | place, c :: cs =>
    if place = .name ∧ isIdentifierChar c then scan .name cs
    else if c = '@' then
      let name := cs.takeWhile isIdentifierChar
      if name.isEmpty then .char c :: scan .plain cs else .reference name :: scan .name cs
    else .char c :: scan (if c = '\'' then .quoted else .plain) cs

/-- The values that a parameter binds: the elements of a list, or the one value. -/
def elements : Value → List Value
  | .list items => items
  | v => [v]

/-- The placeholders for so many elements, after those already bound. -/
def placeholders (d : Dialect) (bound count : Nat) : List String :=
  (List.range count).map fun i => d.placeholder (bound + i + 1)

/-- What stands for a parameter after so many bound values. -/
def expansion (d : Dialect) (bound : Nat) : Value → String
  | .list [] => d.emptyList
  | .list items => "(" ++ ", ".intercalate (placeholders d bound items.length) ++ ")"
  | _ => d.placeholder (bound + 1)

/-- The text and values of the pieces, after so many bound values. -/
def bindPieces (d : Dialect) (parameters : List Parameter) (bound : Nat) :
    List Piece → Except StatementError (List Char × List Value)
  | [] => .ok ([], [])
  | .char c :: rest => do
    let (cs, vs) ← bindPieces d parameters bound rest
    return (c :: cs, vs)
  | .reference name :: rest =>
    match parameterValue? parameters (String.ofList name) with
    | none => .error (.unknownParameter (String.ofList name))
    | some v => do
      let (cs, vs) ← bindPieces d parameters (bound + (elements v).length) rest
      return ((expansion d bound v).toList ++ cs, elements v ++ vs)

end Positional

/-- Puts placeholders for the references to parameters, in the order of the text. Of parameters with
one name the first counts; the first reference without a parameter is an error. The text is taken
apart before any of it is bound; a single walk that does both meets the same references in the same
order, and fails at the same one. -/
def bindPositional (d : Dialect) (sql : String) (parameters : List Parameter) :
    Except StatementError PositionalStatement := do
  let (cs, vs) ← Positional.bindPieces d parameters 0 (Positional.scan .plain sql.toList)
  return ⟨String.ofList cs, vs⟩

/-- The statement with its parameters by position. -/
def Statement.toPositional (d : Dialect) (s : Statement) :
    Except StatementError PositionalStatement :=
  bindPositional d s.sql s.parameters

def PositionalStatement.toJson (s : PositionalStatement) : Json :=
  .object [("sql", .text s.sql), ("values", .list (s.values.map Value.toJson))]

end SqlFilter
