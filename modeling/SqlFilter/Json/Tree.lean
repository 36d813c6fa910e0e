/-! JSON documents as trees. An object keeps its members as written, in order and with repeats, so
that each reader of a record decides for itself what a repeated member means. -/
namespace SqlFilter

/-- A JSON document. An integer is a number of its own, of any size, and no float. -/
inductive Json
  | null
  | bool (b : Bool)
  | int (n : Int)
  | float (x : Float)
  | text (s : String)
  | list (items : List Json)
  | object (members : List (String × Json))
deriving Inhabited

namespace Json

/-- The object of the given members, without those that are absent. -/
def record (members : List (String × Option Json)) : Json :=
  .object (members.filterMap fun m => m.2.map (m.1, ·))

/-- A list of texts. -/
def texts (ss : List String) : Json :=
  .list (ss.map .text)

def text? : Json → Option String
  | .text s => some s
  | _ => none

def bool? : Json → Option Bool
  | .bool b => some b
  | _ => none

def items? : Json → Option (List Json)
  | .list items => some items
  | _ => none

def members? : Json → Option (List (String × Json))
  | .object members => some members
  | _ => none

/-- What stands at a place where `null` means that nothing does. -/
def nullable {α : Type} (read : Json → Option α) : Json → Option (Option α)
  | .null => some none
  | j => (read j).map some

/-- Reads an absent value as a default. -/
def optional {α β : Type} (read : β → Option α) (default : α) : Option β → Option α
  | none => some default
  | some x => read x

/-- The entry of a name that may be absent; a repeated name is refused. -/
def single? {α : Type} (members : List (String × α)) (name : String) : Option (Option α) :=
  match members.filter (·.1 == name) with
  | [] => some none
  | [m] => some (some m.2)
  | _ => none

/-- The fields of a record that names them: unknown names are skipped, a field given twice is
refused. -/
def namedFields? {α : Type} (names : List String) (members : List (String × α)) :
    Option (List (Option α)) :=
  names.mapM (single? members)

/-- The fields of a record that lists them in order: trailing ones may be left off, and nothing may
follow the last. -/
def listedFields? {α : Type} (names : List String) (items : List α) : Option (List (Option α)) :=
  if items.length ≤ names.length then
    some (items.map some ++ List.replicate (names.length - items.length) none)
  else none

/-- One value or nothing for each field of a record, in the order of the field names. -/
def fields? (names : List String) : Json → Option (List (Option Json))
  | .object members => namedFields? names members
  | .list items => listedFields? names items
  | _ => none

end Json
end SqlFilter
