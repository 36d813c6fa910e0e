import SqlFilter.Proofs.Condition.Print
/-! Predicates written in one pass. A writer that goes from left to right with one counter, and
knows of no tree, writes the same text and the same parameters as the clause tree of the predicate
prints. -/
namespace SqlFilter

/-- What has been written so far, and the number of the next parameter. -/
structure Sheet where
  counter : Nat
  sql : String
  parameters : List Parameter
deriving Inhabited

namespace Sheet

def blank : Sheet := ⟨0, "", []⟩

def write (s : Sheet) (text : String) : Sheet := { s with sql := s.sql ++ text }

/-- Writes a clause. Only one with a value takes a number and binds a parameter. -/
def writeClause (escape : Bool) (a : Clause) (s : Sheet) : Sheet :=
  if a.value.isNull then
    s.write (a.field ++ (if a.operator = .eq then " IS NULL" else " IS NOT NULL"))
  else
    let name := a.field ++ "_p" ++ toString s.counter
    let ending := if escape ∧ (a.operator = .like ∨ a.operator = .notLike) then " ESCAPE '\\'" else ""
    { counter := s.counter + 1
      sql := s.sql ++ (a.field ++ " " ++ a.operator.token ++ " @" ++ name ++ ending)
      parameters := s.parameters ++ [⟨name, a.value⟩] }

/-- Lets an operand be written, in parentheses or not. -/
def writeOperand (s : Sheet) (enclosed : Bool) (operand : Sheet → Except CompileError Sheet) :
    Except CompileError Sheet :=
  if enclosed then (operand (s.write "(")).map (·.write ")") else operand s

def query (s : Sheet) : Query := ⟨s.sql, s.parameters⟩

end Sheet

namespace Expr

/-- Whether an operand of a connective is two predicates with the other connective between them. -/
def isJoinedOtherwise (e : Expr) (connective : Connective) : Bool :=
  e.connective?.any (· ≠ connective)

/-- Writes a predicate from left to right. An operand stands in parentheses only if it is joined by
the other connective. -/
def writeOn (escape : Bool) : Expr → Sheet → Except CompileError Sheet
  | .binary op left right, s =>
    match Connective.ofBinary? op with
    | some connective => do
      let s ← s.writeOperand (left.isJoinedOtherwise connective) (writeOn escape left)
      let s := s.write (" " ++ connective.token ++ " ")
      s.writeOperand (right.isJoinedOtherwise connective) (writeOn escape right)
    | none => do return s.writeClause escape (← clause escape (.binary op left right))
  | e, s => do return s.writeClause escape (← clause escape e)

/-- A predicate written on a blank sheet. -/
def written (escape : Bool) (e : Expr) : Except CompileError Query :=
  (e.writeOn escape .blank).map Sheet.query

end Expr

namespace Sheet

/-- The sheet with a query after what is written. -/
def add (s : Sheet) (q : Query) : Sheet :=
  ⟨s.counter + q.parameters.length, s.sql ++ q.sql, s.parameters ++ q.parameters⟩

theorem add_add (s : Sheet) (q r : Query) : (s.add q).add r = s.add (q ++ r) := by
  simp [add, Nat.add_assoc, String.append_assoc]

theorem write_eq_add (s : Sheet) (text : String) : s.write text = s.add (.ofText text) := by
  simp [add, write]

theorem counter_add (s : Sheet) (q : Query) :
    (s.add q).counter = s.counter + q.parameters.length := rfl

theorem writeClause_eq_add (escape : Bool) {a : Clause} (ha : a.Sound) (s : Sheet) :
    s.writeClause escape a = s.add (a.test.print escape s.counter) := by
  have heq := Operator.isEquality_iff ha.suits
  have hlike := Operator.isPatternMatch_iff ha.suits
  unfold writeClause Clause.test
  cases hnull : a.value.isNull with
  | true =>
    by_cases hop : a.operator = .eq
    · have htrue := heq.2 hop
      simp only [↓reduceIte, if_pos hop, htrue, write_eq_add, Test.print]
    · have hfalse : a.operator.isEquality ≠ true := fun h => hop (heq.1 h)
      simp only [↓reduceIte, if_neg hop, if_neg hfalse, write_eq_add, Test.print]
  | false => simp [add, Test.print, numberedName, ← hlike]

end Sheet

namespace Expr

theorem writeOn_eq_writeClause (escape : Bool) {e : Expr} (alone : e.connective? = none) (s : Sheet) :
    writeOn escape e s = (do return s.writeClause escape (← clause escape e)) := by
  cases e with
  | binary op left right =>
    have hop : Connective.ofBinary? op = none := alone
    simp only [writeOn, hop]
  | _ => simp only [writeOn]

theorem writeOn_of_alone (escape : Bool) {e : Expr} (alone : e.connective? = none) (s : Sheet) :
    writeOn escape e s = (e.condition escape).map fun c =>
      s.add ((c.map Clause.test).print escape s.counter) := by
  rw [writeOn_eq_writeClause escape alone, condition_of_alone escape alone]
  cases ha : clause escape e with
  | error x => rfl
  | ok a => simp [Sheet.writeClause_eq_add escape (clause_sound ha), Condition.map, Condition.print]

theorem writeOperand_eq_add (escape : Bool) (connective : Connective) {e : Expr}
    {c : Condition Clause} (hc : e.Flattens escape c)
    (ih : ∀ s, writeOn escape e s = .ok (s.add ((c.map Clause.test).print escape s.counter)))
    (s : Sheet) :
    s.writeOperand (e.isJoinedOtherwise connective) (writeOn escape e) =
      .ok (s.add (Condition.printRun escape connective s.counter
        ((c.map Clause.test).run connective))) := by
  have htop := hc.connective?_eq
  unfold Sheet.writeOperand isJoinedOtherwise
  rw [← htop]
  cases c with
  | test a =>
    simp [Condition.connective?, ih, Condition.map, Condition.run, Condition.print,
      Condition.printRun, Condition.printMore, Condition.printPart]
  | joined op parts =>
    by_cases hop : op = connective
    · -- a run of the same connective goes on without parentheses
      subst hop
      simp [Condition.connective?, ih, Condition.map, Condition.run, Condition.print]
    · simp [Condition.connective?, hop, ih, Condition.map, Condition.run, Condition.print,
        Condition.printRun, Condition.printMore, Condition.printPart, Sheet.write_eq_add,
        Sheet.add_add, Sheet.counter_add, Query.append_assoc]

/-- The writer adds to a sheet what the flat condition prints from the counter on. -/
theorem writeOn_eq_add (escape : Bool) (e : Expr) (s : Sheet) :
    writeOn escape e s = (e.condition escape).map fun c =>
      s.add ((c.map Clause.test).print escape s.counter) := by
  -- the sheet is arbitrary, since an operand is written on what stands before it
  fun_induction condition escape e generalizing s with
  | case1 op left right connective hop ihl ihr =>
    simp only [writeOn, hop]
    cases hl : left.condition escape with
    | error x => simp [Sheet.writeOperand, ihl, hl]
    | ok l =>
      have hleft := flattens_of_condition hl
      rw [writeOperand_eq_add escape connective hleft (fun s => by rw [ihl, hl, ok_map]), ok_bind]
      cases hr : right.condition escape with
      | error x => simp [Sheet.writeOperand, ihr, hr]
      | ok r =>
        have hright := flattens_of_condition hr
        rw [writeOperand_eq_add escape connective hright (fun s => by rw [ihr, hr, ok_map])]
        have hls := Condition.run_ne_nil connective (Condition.isFlat_map Clause.test hleft.isFlat)
        have hrs := Condition.run_ne_nil connective (Condition.isFlat_map Clause.test hright.isFlat)
        simp only [ok_bind, pure_eq_ok, ok_map, Condition.map_merge, Condition.print_merge,
          Condition.printRun_append _ _ _ hls hrs, Sheet.write_eq_add, Sheet.add_add,
          Sheet.counter_add, Query.append_assoc, Query.parameters_append,
          Query.parameters_ofText, List.append_nil]
  | case2 op left right hop =>
    rw [writeOn_of_alone escape (e := .binary op left right) hop,
      condition_of_alone escape (e := .binary op left right) hop]
    cases clause escape (.binary op left right) <;> rfl
  | case3 e he =>
    have alone := connective?_of_ne_binary he
    rw [writeOn_of_alone escape alone, condition_of_alone escape alone]
    cases clause escape e <;> rfl

/-- Compiling a predicate is checking the fields of its tree and writing it in one pass. -/
theorem compile_eq_written (compiler : Compiler) (e : Expr) (escape : Bool) :
    (e.tree escape).map (·.toQuery escape) = e.written escape ∧
      compiler.compile e = (do
        compiler.validate (← e.tree compiler.options.escapeWildcards)
        e.written compiler.options.escapeWildcards) := by
  have hwritten (escape : Bool) :
      (e.tree escape).map (·.toQuery escape) = e.written escape := by
    -- both sides are the flat condition as text, numbered from zero
    rw [written, writeOn_eq_add, tree_eq_map]
    cases hc : e.condition escape with
    | error x => rfl
    | ok c =>
      have hquery := Condition.toQuery_tree escape (flattens_of_condition hc).isFlat
      simp [hquery, Sheet.query, Sheet.add, Sheet.blank]
  refine ⟨hwritten escape, ?_⟩
  rw [← hwritten]
  unfold Compiler.compile Compiler.tree
  cases e.tree compiler.options.escapeWildcards with
  | error x => rfl
  | ok t =>
    cases hv : compiler.validate t <;> simp [hv]

end Expr
end SqlFilter
