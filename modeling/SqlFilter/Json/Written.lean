import SqlFilter.Json.Tree
/-! Documents as they are written. A number may be written that lies beyond all floats, and a string
whose escapes make no text; each has the form of a document and stands for none. A reader that skips
a part of a document need not know what it stands for. -/
namespace SqlFilter.Json

/-- A document as it is written. What is neither list nor object has a value if it stands for one,
and the name of a member is a text if it stands for one. -/
inductive Written
  | scalar (value : Option Json)
  | list (items : List Written)
  | object (members : List (Option String × Written))
deriving Inhabited

/-- The nesting that documents may have. -/
def maxDepth : Nat := 127

mutual

/-- A document as it would be written. -/
def written : Json → Written
  | .list items => .list (writtenItems items)
  | .object members => .object (writtenMembers members)
  | j => .scalar (some j)

def writtenItems : List Json → List Written
  | [] => []
  | j :: js => written j :: writtenItems js

def writtenMembers : List (String × Json) → List (Option String × Written)
  | [] => []
  | (name, j) :: ms => (some name, written j) :: writtenMembers ms

end

namespace Written

/-- The document that it stands for, if there is one and it nests at most `depth` deep. -/
def document? : Nat → Written → Option Json
  | _, .scalar value => value
  | 0, _ => none
  | depth + 1, .list items => (items.mapM (document? depth)).map .list
  | depth + 1, .object members =>
    (members.mapM fun m : Option String × Written => do
      return (← m.1, ← document? depth m.2)).map .object

/-- Reads what stands for a document. -/
def read? {α : Type} (read : Json → Option α) (w : Written) : Option α :=
  (w.document? maxDepth).bind read

def items? : Written → Option (List Written)
  | .list items => some items
  | _ => none

/-- The members of an object whose names are all texts. -/
def members? : Written → Option (List (String × Written))
  | .object members => members.mapM fun (name, w) => name.map (·, w)
  | _ => none

/-- What stands at a place where `null` means that nothing does. -/
def nullable {α : Type} (read : Written → Option α) : Written → Option (Option α)
  | .scalar (some .null) => some none
  | w => (read w).map some

/-- One value or nothing for each field of a record, in the order of the field names. What belongs to
an unknown name can be anything. -/
def fields? (names : List String) (w : Written) : Option (List (Option Written)) :=
  match w.items? with
  | some items => listedFields? names items
  | none => w.members?.bind (namedFields? names)

end Written
end SqlFilter.Json
