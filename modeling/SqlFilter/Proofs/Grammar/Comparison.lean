import SqlFilter.ClauseTree.OfExpr
import SqlFilter.Proofs.Grammar.Parts
/-! Comparisons as they are written: which are predicates, and what is at fault with the others. -/
namespace SqlFilter.Expr

def comparisons : List BinaryOp :=
  [.eq, .ne, .lt, .lte, .gt, .gte]

/-- A comparison of a field path with a value that is no list, and null only for equality. -/
structure IsComparison (op : BinaryOp) (left right : Expr) : Prop where
  operator : op ∈ comparisons
  path : left.IsFieldPath
  value : ∃ v, right.StandsFor v ∧ v.items? = none ∧ (v = .null → op = .eq ∨ op = .ne)

/-- The operator is looked at first, then the left side, then the right side. -/
inductive ComparisonFault (op : BinaryOp) (left right : Expr) : CompileError → Prop
  | operator (hop : op ∉ comparisons) :
      ComparisonFault op left right (.unsupportedOperator ("'" ++ op.sign ++ "' isn't supported"))
  | left {x : CompileError} (hop : op ∈ comparisons) (h : left.PathFault x) :
      ComparisonFault op left right x
  | right {x : CompileError} (hop : op ∈ comparisons) (hleft : left.IsFieldPath)
      (h : right.ValueFault x) : ComparisonFault op left right x
  | null (hop : op ∈ comparisons) (hleft : left.IsFieldPath) (hright : right.StandsFor .null)
      (h : op ≠ .eq ∧ op ≠ .ne) :
      ComparisonFault op left right (.unsupportedOperator
        ("'" ++ op.sign ++ "' cannot compare " ++ left.display ++ " against null"))
  | list {items : List Value} (hop : op ∈ comparisons) (hleft : left.IsFieldPath)
      (hright : right.StandsFor (.list items)) :
      ComparisonFault op left right
        (.unsupportedExpression (left.display ++ " " ++ op.sign ++ " " ++ right.display ++
          " compares against a collection; use a membership test"))

theorem exists_operator_iff {op : BinaryOp} :
    (∃ operator, Operator.ofComparison? op = some operator) ↔ op ∈ comparisons := by
  cases op <;> simp [Operator.ofComparison?, comparisons]

theorem comparisonClause_of_ok {op : BinaryOp} {left right : Expr} {operator : Operator}
    {field : FieldPath} {v : Value} (hop : Operator.ofComparison? op = some operator)
    (hleft : left.fieldPath = .ok field) (hright : right.operand = .ok v) :
    comparisonClause op left right = match v with
      | .null =>
        if op = .eq ∨ op = .ne then .ok (clauseOn field operator v)
        else .error (.unsupportedOperator
          ("'" ++ op.sign ++ "' cannot compare " ++ left.display ++ " against null"))
      | .list _ => .error (.unsupportedExpression (left.display ++ " " ++ op.sign ++ " " ++
          right.display ++ " compares against a collection; use a membership test"))
      | v => .ok (clauseOn field operator v) := by
  simp only [comparisonClause, hop, hleft, hright, ok_bind]
  cases v <;> rfl

theorem settles_comparisonClause (op : BinaryOp) (left right : Expr) :
    Settles (comparisonClause op left right) (IsComparison op left right)
      (ComparisonFault op left right) := by
  refine settles_of_cases ?_ ?_ ?_
  · rintro ⟨hop, hleft, v, hright, hscalar, hnull⟩
    obtain ⟨operator, hop⟩ := exists_operator_iff.2 hop
    obtain ⟨field, hfield⟩ := (settles_fieldPath left).ok_iff.2 hleft
    rw [comparisonClause_of_ok hop hfield (operand_eq_ok_iff.2 hright)]
    cases v with
    | null => exact ⟨_, if_pos (hnull rfl)⟩
    | list items => simp [Value.items?] at hscalar
    | _ => exact ⟨_, rfl⟩
  · intro x hx
    cases hx with
    | operator hop =>
      have hnone : Operator.ofComparison? op = none := by
        refine Option.eq_none_iff_forall_ne_some.2 ?_
        intro operator h
        exact hop (exists_operator_iff.1 ⟨operator, h⟩)
      simp only [comparisonClause, hnone]
    | left hop h =>
      obtain ⟨operator, hop⟩ := exists_operator_iff.2 hop
      have hfield := ((settles_fieldPath left).error_iff x).2 h
      simp only [comparisonClause, hop, hfield, error_bind]
    | right hop hleft h =>
      obtain ⟨operator, hop⟩ := exists_operator_iff.2 hop
      obtain ⟨field, hfield⟩ := (settles_fieldPath left).ok_iff.2 hleft
      have hvalue := operand_eq_error_iff.2 h
      simp only [comparisonClause, hop, hfield, hvalue, ok_bind, error_bind]
    | null hop hleft hright h =>
      obtain ⟨operator, hop⟩ := exists_operator_iff.2 hop
      obtain ⟨field, hfield⟩ := (settles_fieldPath left).ok_iff.2 hleft
      rw [comparisonClause_of_ok hop hfield (operand_eq_ok_iff.2 hright)]
      exact if_neg (not_or.2 h)
    | list hop hleft hright =>
      obtain ⟨operator, hop⟩ := exists_operator_iff.2 hop
      obtain ⟨field, hfield⟩ := (settles_fieldPath left).ok_iff.2 hleft
      rw [comparisonClause_of_ok hop hfield (operand_eq_ok_iff.2 hright)]
  · -- in the order in which the parts are looked at
    by_cases hop : op ∈ comparisons
    · rcases (settles_fieldPath left).cases with hleft | ⟨x, h⟩
      · cases hright : right.operand with
        | error x => exact Or.inr ⟨x, .right hop hleft (operand_eq_error_iff.1 hright)⟩
        | ok v =>
          have hright := operand_eq_ok_iff.1 hright
          cases v with
          | null =>
            by_cases hequal : op = .eq ∨ op = .ne
            · exact Or.inl ⟨hop, hleft, .null, hright, rfl, fun _ => hequal⟩
            · exact Or.inr ⟨_, .null hop hleft hright (not_or.1 hequal)⟩
          | list items => exact Or.inr ⟨_, .list hop hleft hright⟩
          | _ => exact Or.inl ⟨hop, hleft, _, hright, rfl, by simp⟩
      · exact Or.inr ⟨x, .left hop h⟩
    · exact Or.inr ⟨_, .operator hop⟩

end SqlFilter.Expr
