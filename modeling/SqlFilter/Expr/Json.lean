import SqlFilter.Expr.Basic
import SqlFilter.Value.Json
/-! Predicates as JSON. A node is an object that names its kind and its fields, or a list of the kind
and the fields in order. -/
namespace SqlFilter.Expr

/-- The kinds of node. -/
inductive Kind
  | field | constant | captured | member | binary | not | call
deriving DecidableEq, Repr

namespace Kind

def all : List Kind :=
  [.field, .constant, .captured, .member, .binary, .not, .call]

def name : Kind → String
  | .field => "field"
  | .constant => "constant"
  | .captured => "captured"
  | .member => "member"
  | .binary => "binary"
  | .not => "not"
  | .call => "call"

/-- The fields of a node, in order. -/
def fieldNames : Kind → List String
  | .field => ["path"]
  | .constant => ["value"]
  | .captured => ["name", "members"]
  | .member => ["target", "member"]
  | .binary => ["op", "left", "right"]
  | .not => ["operand"]
  | .call => ["method", "target", "args"]

/-- A kind is given by its name. Within another node its place in the list of kinds will do. -/
def ofJson? (inner : Bool) : Json → Option Kind
  | .text s => all.find? (·.name == s)
  | .int n => if inner && 0 ≤ n then all[n.toNat]? else none
  | _ => none

theorem ofJson?_name (inner : Bool) (k : Kind) : ofJson? inner (.text k.name) = some k := by
  cases k <;> rfl

end Kind

mutual

def toJson : Expr → Json
  | .field path => .object [("kind", .text "field"), ("path", .text path)]
  | .constant v => .object [("kind", .text "constant"), ("value", v.toJson)]
  | .captured name members =>
    .object [("kind", .text "captured"), ("name", .text name),
      ("members", .object (members.entries.map fun e => (e.1, e.2.toJson)))]
  | .member target name =>
    .object [("kind", .text "member"), ("target", target.toJson), ("member", .text name)]
  | .binary op left right =>
    .object [("kind", .text "binary"), ("op", .text op.name), ("left", left.toJson),
      ("right", right.toJson)]
  | .not operand => .object [("kind", .text "not"), ("operand", operand.toJson)]
  | .call method target args =>
    .object ([("kind", .text "call"), ("method", .text method)] ++ targetToJson target ++
      [("args", .list (argsToJson args))])

/-- The member for the target, left out when there is none. -/
def targetToJson : Option Expr → List (String × Json)
  | none => []
  | some target => [("target", target.toJson)]

def argsToJson : List Expr → List Json
  | [] => []
  | e :: es => e.toJson :: argsToJson es

end

/-- An operator is given by its name, or by an object of that one name with nothing in it. -/
def opOfJson? : Json → Option BinaryOp
  | .text s => BinaryOp.ofName? s
  | .object [(s, .null)] => BinaryOp.ofName? s
  | .object [(s, .object [])] => BinaryOp.ofName? s
  | _ => none

/-- Named values; of a repeated name the last counts. -/
def membersOfJson? (j : Json) : Option (NameMap Value) := do
  let members ← j.members?
  let entries ← members.mapM fun m => (Value.firstFit? m.2).map (m.1, ·)
  return .ofList entries

/-- A document together with what it is as a node, and as a list of nodes. -/
structure Reading where
  raw : Json
  node? : Option Expr
  nodes? : Option (List Expr)

/-- The node of a kind, from its fields in order. -/
def ofFields? : Kind → List (Option Reading) → Option Expr
  | .field, [some path] => path.raw.text?.map .field
  | .constant, [some v] => (Value.firstFit? v.raw).map .constant
  | .captured, [some name, some members] => do
    return .captured (← name.raw.text?) (← membersOfJson? members.raw)
  | .member, [some target, some name] => do
    return .member (← target.node?) (← name.raw.text?)
  | .binary, [some op, some left, some right] => do
    return .binary (← opOfJson? op.raw) (← left.node?) (← right.node?)
  | .not, [some operand] => operand.node?.map .not
  | .call, [some method, target, args] => do
    let target ← match target with
      | none => some none
      | some t => if t.raw matches .null then some none else t.node?.map some
    let args ← match args with
      | none => some []
      | some as => as.nodes?
    return .call (← method.raw.text?) target args
  | _, _ => none

/-- The node that an object of these members is. -/
def ofMembers? (inner : Bool) (members : List (String × Reading)) : Option Expr := do
  let kind ← Kind.ofJson? inner (← (← Json.single? members "kind")).raw
  ofFields? kind (← Json.namedFields? kind.fieldNames members)

/-- The node that a list of these items is. -/
def ofItems? (inner : Bool) : List Reading → Option Expr
  | [] => none
  | first :: rest => do
    let kind ← Kind.ofJson? inner first.raw
    ofFields? kind (← Json.listedFields? kind.fieldNames rest)

mutual

/-- Reads each part of a document once, as whatever it may be wanted for. -/
def reading : Json → Reading
  | .object members => ⟨.object members, ofMembers? true (memberReadings members), none⟩
  | .list items =>
    let rs := itemReadings items
    ⟨.list items, ofItems? true rs, rs.mapM (·.node?)⟩
  | j => ⟨j, none, none⟩

def memberReadings : List (String × Json) → List (String × Reading)
  | [] => []
  | (k, j) :: ms => (k, reading j) :: memberReadings ms

def itemReadings : List Json → List Reading
  | [] => []
  | j :: js => reading j :: itemReadings js

end

/-- Reads a document as a predicate. -/
def ofJson? : Json → Option Expr
  | .object members => ofMembers? false (memberReadings members)
  | .list items => ofItems? false (itemReadings items)
  | _ => none

end SqlFilter.Expr
