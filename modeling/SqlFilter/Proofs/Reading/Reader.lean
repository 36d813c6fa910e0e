import SqlFilter.Proofs.Condition.Print
import SqlFilter.Proofs.Reading.Token
/-! Reading SQL conditions. The reader takes one token after the other; it tells names from keywords
by where they stand, so a field may be spelled like a keyword. `AND` binds tighter than `OR`: only
`OR` begins a new alternative. -/
namespace SqlFilter

/-- What has been read between two parentheses: the alternatives before the last `OR`, and the
conjuncts since then. -/
structure Level where
  alternatives : List (Condition Test)
  conjuncts : List (Condition Test)
deriving Inhabited

namespace Level

def start : Level := ⟨[], []⟩

/-- Conditions with a connective between them, where a single one needs none. -/
def unite (op : Connective) : List (Condition Test) → Condition Test
  | [c] => c
  | cs => .joined op cs

def put (l : Level) (c : Condition Test) : Level :=
  { l with conjuncts := l.conjuncts ++ [c] }

/-- The level after a connective. -/
def go (op : Connective) (l : Level) : Level :=
  match op with
  | .and => l
  | .or => ⟨l.alternatives ++ [unite .and l.conjuncts], []⟩

/-- What has been read, as one condition. -/
def condition (l : Level) : Condition Test :=
  unite .or (l.alternatives ++ [unite .and l.conjuncts])

example (a b c : Condition Test) :
    (((((start.put a).go .or).put b).go .and).put c).condition =
      .joined .or [a, .joined .and [b, c]] := rfl

end Level

/-- What may come next. -/
inductive Place
  | operand
  | operator (field : String)
  | afterIs (field : String)
  | afterIsNot (field : String)
  | afterNot (field : String)
  | value (field : String) (op : Operator)
  | afterPattern
  | afterEscape
  | connective
deriving DecidableEq, Repr

/-- Where the reader is, with the levels that are still open around the present one. -/
structure Reader where
  place : Place
  level : Level
  outer : List Level

/-- The comparison that a sign stands for in SQL. -/
def comparison? : String → Option Operator
  | "=" => some .eq
  | "!=" => some .ne
  | "<" => some .lt
  | "<=" => some .lte
  | ">" => some .gt
  | ">=" => some .gte
  | _ => none

namespace Reader

def move (r : Reader) (place : Place) : Reader := { r with place := place }

def put (r : Reader) (place : Place) (c : Condition Test) : Reader :=
  ⟨place, r.level.put c, r.outer⟩

/-- What may follow any operand: a connective or the end of the level. -/
def close (r : Reader) : Token → Option Reader
  | .word "AND" => some ⟨.operand, r.level.go .and, r.outer⟩
  | .word "OR" => some ⟨.operand, r.level.go .or, r.outer⟩
  | .closing =>
    match r.outer with
    | l :: ls => some ⟨.connective, l.put r.level.condition, ls⟩
    | [] => none
  | _ => none

/-- Takes one token. A reference stands for the value of its parameter. -/
def step (ps : List Parameter) (r : Reader) (t : Token) : Option Reader :=
  match r.place, t with
  | .operand, .opening => some ⟨.operand, .start, r.level :: r.outer⟩
  | .operand, .word field => some (r.move (.operator field))
  | .operator field, .sign s => (comparison? s).map fun op => r.move (.value field op)
  | .operator field, .word "LIKE" => some (r.move (.value field .like))
  | .operator field, .word "IN" => some (r.move (.value field .isIn))
  | .operator field, .word "NOT" => some (r.move (.afterNot field))
  | .operator field, .word "IS" => some (r.move (.afterIs field))
  | .afterNot field, .word "LIKE" => some (r.move (.value field .notLike))
  | .afterNot field, .word "IN" => some (r.move (.value field .notIn))
  | .afterIs field, .word "NULL" => some (r.put .connective (.test (.isNull field)))
  | .afterIs field, .word "NOT" => some (r.move (.afterIsNot field))
  | .afterIsNot field, .word "NULL" => some (r.put .connective (.test (.isNotNull field)))
  | .value field op, .reference name =>
    (parameterValue? ps name).map fun v =>
      r.put (if op = .like ∨ op = .notLike then .afterPattern else .connective)
        (.test (.against field op v))
  | .afterPattern, .word "ESCAPE" => some (r.move .afterEscape)
  | .afterEscape, .quoted "\\" => some (r.move .connective)
  | .afterPattern, t | .connective, t => r.close t
  | _, _ => none

def run (ps : List Parameter) (r : Reader) (ts : List Token) : Option Reader :=
  ts.foldlM (step ps) r

/-- The condition that has been read, if it is complete. -/
def result? (r : Reader) : Option (Condition Test) :=
  match r.place, r.outer with
  | .connective, [] | .afterPattern, [] => some r.level.condition
  | _, _ => none

end Reader

/-- The condition that a text with parameters says. -/
def readCondition? (sql : String) (ps : List Parameter) : Option (Condition Test) := do
  let r ← Reader.run ps ⟨.operand, .start, []⟩ (tokens sql.toList)
  r.result?

/-- The condition that a query says. -/
def Query.condition? (q : Query) : Option (Condition Test) :=
  readCondition? q.sql q.parameters

end SqlFilter
