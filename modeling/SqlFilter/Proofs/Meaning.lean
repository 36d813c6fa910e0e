import SqlFilter.Proofs.Condition.Truth
import SqlFilter.Proofs.Reading.OfPrint
/-! What compiled predicates mean. Predicates are evaluated as they stand and conditions as they are
read from their text; compiling keeps the truth under every assignment to the tests of fields. -/
namespace SqlFilter

/-- The truth of a test. A test with `NOT` is the negation of the one without it. -/
def Test.truth (v : Test → Truth) : Test → Truth
  | .against field .notLike value => (v (.against field .like value)).not
  | .against field .notIn value => (v (.against field .isIn value)).not
  | t => v t

/-- The truth of what the text of a query says, if it says a condition. -/
def Query.truth? (v : Test → Truth) (q : Query) : Option Truth :=
  q.condition?.map (·.truth (Test.truth v))

namespace Expr

/-- The test that a call makes: a text matched against a pattern, or membership in a collection. -/
def callTest? (escape : Bool) (method : String) (target : Option Expr) (args : List Expr) :
    Option Test := do
  let kind ← (Method.ofName method).toOption
  match methodOn kind target with
  | .startsWith | .endsWith | .stringContains =>
    let field ← (← target).fieldPath.toOption
    let value ← (← args.head?).operand.toOption
    let pattern ← ((methodOn kind target).pattern value escape).toOption
    return .against field.name .like (.text pattern)
  | .contains | .elementOf =>
    let (collection, element) ← membershipParts? target args
    let field ← element.fieldPath.toOption
    let items ← collection.collection.toOption
    return .against field.name .isIn (.list items)
  | .any | .all => none

/-- The test that a comparison makes. Null is compared by a test for null. -/
def comparisonTest? (op : BinaryOp) (left right : Expr) : Option Test := do
  let operator ← Operator.ofComparison? op
  let field ← left.fieldPath.toOption
  match op, ← right.operand.toOption with
  | .eq, .null => return .isNull field.name
  | .ne, .null => return .isNotNull field.name
  | _, value => return .against field.name operator value

/-- The truth of a predicate whose tests are as true as `v` says, evaluated as it stands. -/
def truth? (v : Test → Truth) (escape : Bool) : Expr → Option Truth
  | .binary .and left right => do return (← left.truth? v escape).and (← right.truth? v escape)
  | .binary .or left right => do return (← left.truth? v escape).or (← right.truth? v escape)
  | .binary op left right => (comparisonTest? op left right).map v
  | .call method target args => (callTest? escape method target args).map v
  | .not (.call method target args) => (callTest? escape method target args).map fun t => (v t).not
  | .not inner => inner.fieldPath.toOption.map fun field => v (.against field.name .eq (.bool false))
  | e => e.fieldPath.toOption.map fun field => v (.against field.name .eq (.bool true))

variable {v : Test → Truth} {escape : Bool}

theorem callTest?_of_match {kind : Method} {method : String} {receiver arg : Expr}
    {rest : List Expr} {field : FieldPath} {value : Value} {pattern : String}
    (hkind : Method.ofName method = .ok kind)
    (hm : (methodOn kind (some receiver)).isPatternMatch = true)
    (hfield : receiver.fieldPath = .ok field) (hvalue : arg.operand = .ok value)
    (hpattern : (methodOn kind (some receiver)).pattern value escape = .ok pattern) :
    callTest? escape method (some receiver) (arg :: rest) =
      some (.against field.name .like (.text pattern)) := by
  unfold callTest?
  rw [toOption_ok hkind]
  cases hon : methodOn kind (some receiver) with
  | startsWith | endsWith | stringContains =>
    rw [hon] at hpattern
    simp [hon, toOption_ok hfield, toOption_ok hvalue, toOption_ok hpattern]
  | contains | elementOf | any | all =>
    rw [hon] at hm
    exact absurd hm (by decide)

theorem callTest?_of_membership {kind : Method} {method : String} {target : Option Expr}
    {args : List Expr} {collection element : Expr} {field : FieldPath} {items : List Value}
    (hkind : Method.ofName method = .ok kind) (hon : methodOn kind target = kind)
    (hm : kind = .contains ∨ kind = .elementOf)
    (hparts : membershipParts? target args = some (collection, element))
    (hfield : element.fieldPath = .ok field) (hitems : collection.collection = .ok items) :
    callTest? escape method target args = some (.against field.name .isIn (.list items)) := by
  unfold callTest?
  rw [toOption_ok hkind]
  rcases hm with rfl | rfl <;>
    simp [hon, hparts, toOption_ok hfield, toOption_ok hitems]

/-- The clause of a call says its test, and the clause of the negated call the negation of it. -/
theorem callTest?_of_callClause {negated : Bool} {method : String} {target : Option Expr}
    {args : List Expr} {a : Clause} (h : callClause escape negated method target args = .ok a) :
    ∃ t, callTest? escape method target args = some t ∧
      a.test.truth v = if negated then (v t).not else v t := by
  obtain ⟨kind, hkind, ⟨receiver, rfl, -, hm, h⟩ | ⟨hon, hm, h⟩⟩ := callClause_cases h
  · obtain ⟨field, arg, rest, value, pattern, hfield, rfl, hvalue, hpattern, rfl⟩ :=
      matchClause_eq_ok h
    refine ⟨_, callTest?_of_match hkind hm hfield hvalue hpattern, ?_⟩
    rw [Method.operator_of_isPatternMatch hm]
    cases negated <;> rfl
  · obtain ⟨collection, element, field, items, hparts, hfield, hitems, rfl⟩ :=
      membershipClause_eq_ok h
    refine ⟨_, callTest?_of_membership hkind hon hm hparts hfield hitems, ?_⟩
    rw [Method.operator_of_membership hm]
    cases negated <;> rfl

theorem truth_of_comparison {op : BinaryOp} {operator : Operator}
    (hop : Operator.ofComparison? op = some operator) (field : String) (value : Value) :
    (Test.against field operator value).truth v = v (.against field operator value) := by
  cases op <;> simp only [Operator.ofComparison?, Option.some.injEq, reduceCtorEq] at hop <;>
    subst hop <;> rfl

theorem comparisonTest?_of_comparisonClause {op : BinaryOp} {left right : Expr} {a : Clause}
    (h : comparisonClause op left right = .ok a) :
    ∃ t, comparisonTest? op left right = some t ∧ a.test.truth v = v t := by
  obtain ⟨operator, field, value, hop, hfield, hvalue, hsuits, rfl⟩ := comparisonClause_eq_ok h
  have htest : comparisonTest? op left right = some (clauseOn field operator value).test := by
    unfold comparisonTest?
    rw [hop, toOption_ok hfield, toOption_ok hvalue]
    cases value with
    | null =>
      have hnull := Operator.eq_or_ne_of_suits_null hsuits
      cases op <;> simp only [Operator.ofComparison?, Option.some.injEq, reduceCtorEq] at hop <;>
        subst hop <;> simp only [reduceCtorEq, or_self] at hnull <;> rfl
    | _ => cases op <;> rfl
  refine ⟨_, htest, ?_⟩
  -- none of these tests is a negated one
  unfold Clause.test
  split
  · split <;> rfl
  · exact truth_of_comparison hop _ _

theorem truth?_of_comparison {op : BinaryOp} (hop : Connective.ofBinary? op = none)
    (left right : Expr) :
    truth? v escape (.binary op left right) = (comparisonTest? op left right).map v := by
  cases op with
  | and | or => simp [Connective.ofBinary?] at hop
  | _ => simp only [truth?]

theorem truth_of_truthClause {e : Expr} {b : Bool} {a : Clause} (h : e.truthClause b = .ok a) :
    (e.fieldPath.toOption.map fun field => v (.against field.name .eq (.bool b))) =
      some (a.test.truth v) := by
  obtain ⟨field, hfield, rfl⟩ := truthClause_eq_ok h
  rw [toOption_ok hfield]
  rfl

/-- What a clause of a predicate says is as true as the predicate. -/
theorem truth?_of_clause {e : Expr} {a : Clause} (alone : e.connective? = none)
    (h : clause escape e = .ok a) : e.truth? v escape = some (a.test.truth v) := by
  cases hasClause_of_clause h with
  | field ha | member ha | notField ha | notMember ha =>
    simpa only [truth?] using truth_of_truthClause ha
  | comparison ha =>
    obtain ⟨t, ht, htruth⟩ := comparisonTest?_of_comparisonClause (v := v) ha
    rw [truth?_of_comparison alone, ht, htruth, Option.map_some]
  | call negated ha =>
    obtain ⟨t, ht, htruth⟩ := callTest?_of_callClause (v := v) ha
    cases negated <;> simpa [calling, truth?, ht] using htruth.symm

theorem Flattens.truth?_eq {e : Expr} {c : Condition Clause} (h : e.Flattens escape c) :
    e.truth? v escape = some ((c.map Clause.test).truth (Test.truth v)) := by
  -- flattening keeps the truth of each connective, so the induction is on how it flattens
  induction h with
  | test alone ha => exact truth?_of_clause alone ha
  | @joined op connective left right l r hop hl hr ihl ihr =>
    rw [Condition.map_merge, Condition.truth_merge]
    cases op <;> simp only [Connective.ofBinary?, Option.some.injEq, reduceCtorEq] at hop <;>
      subst hop <;> simp [truth?, ihl, ihr, Connective.apply]

end Expr
end SqlFilter
