import SqlFilter.Proofs.Condition.Operands
import SqlFilter.Proofs.Grammar.Call
import SqlFilter.Proofs.Grammar.Comparison
/-! The grammar of predicates. What has a clause tree is what the grammar lets in; anything else is
rejected for the first of its operands that is no predicate. -/
namespace SqlFilter.Expr

/-- The expressions that are predicates. -/
inductive IsPredicate : Expr → Prop
  | joined {op : BinaryOp} {left right : Expr} (hop : op = .and ∨ op = .or)
      (hleft : IsPredicate left) (hright : IsPredicate right) : IsPredicate (.binary op left right)
  | comparison {op : BinaryOp} {left right : Expr} (h : IsComparison op left right) :
      IsPredicate (.binary op left right)
  | field {e : Expr} (h : e.IsFieldPath) : IsPredicate e
  | notField {e : Expr} (h : e.IsFieldPath) : IsPredicate (.not e)
  | call {method : String} {target : Option Expr} {args : List Expr}
      (h : IsCall method target args) : IsPredicate (.call method target args)
  | notCall {method : String} {target : Option Expr} {args : List Expr}
      (h : IsCall method target args) : IsPredicate (.not (.call method target args))

/-- What is at fault with an operand of connectives that is no predicate. -/
inductive OperandFault : Expr → CompileError → Prop
  | comparison {op : BinaryOp} {left right : Expr} {x : CompileError}
      (h : ComparisonFault op left right x) : OperandFault (.binary op left right) x
  | field {path : String} {x : CompileError} (h : (Expr.field path).PathFault x) :
      OperandFault (.field path) x
  | member {target : Expr} {name : String} {x : CompileError}
      (h : (Expr.member target name).PathFault x) : OperandFault (.member target name) x
  | notField {e : Expr} {x : CompileError} (hshape : e.IsFieldShaped) (h : e.PathFault x) :
      OperandFault (.not e) x
  | call {method : String} {target : Option Expr} {args : List Expr} {x : CompileError}
      (h : CallFault method target args x) : OperandFault (.call method target args) x
  | notCall {method : String} {target : Option Expr} {args : List Expr} {x : CompileError}
      (h : CallFault method target args x) : OperandFault (.not (.call method target args)) x
  | notOther {e : Expr} (hshape : ¬e.IsFieldShaped)
      (hcall : ∀ method target args, e ≠ .call method target args) :
      OperandFault (.not e) (.unsupportedExpression ((Expr.not e).display ++
        " (negation is only supported on method calls and boolean fields)"))
  | constant (v : Value) :
      OperandFault (.constant v)
        (.unsupportedExpression ((Expr.constant v).display ++ " is not a predicate"))
  | captured (name : String) (members : NameMap Value) :
      OperandFault (.captured name members)
        (.unsupportedExpression ((Expr.captured name members).display ++ " is not a predicate"))

theorem settles_truthClause (e : Expr) (b : Bool) :
    Settles (e.truthClause b) e.IsFieldPath e.PathFault := by
  have h := settles_fieldPath e
  refine settles_of_cases ?_ ?_ h.cases
  · intro he
    obtain ⟨field, hfield⟩ := h.ok_iff.2 he
    exact ⟨_, bind_eq_ok_iff.2 ⟨field, hfield, rfl⟩⟩
  · intro x hx
    exact bind_eq_error_iff.2 (Or.inl ((h.error_iff x).2 hx))

theorem clause_of_isFieldShaped (escape : Bool) {e : Expr} (h : e.IsFieldShaped) :
    clause escape e = e.truthClause true := by
  obtain ⟨segments, hreads⟩ := h
  cases hreads <;> rfl

theorem clause_not_of_isFieldShaped (escape : Bool) {e : Expr} (h : e.IsFieldShaped) :
    clause escape (.not e) = e.truthClause false := by
  have hread := isFieldShaped_iff.1 h
  obtain ⟨segments, hreads⟩ := h
  cases hreads <;> simp only [clause, hread, ↓reduceIte]

theorem clause_not_of_other (escape : Bool) {e : Expr} (hshape : ¬e.IsFieldShaped)
    (hcall : ∀ method target args, e ≠ .call method target args) :
    clause escape (.not e) = .error (.unsupportedExpression ((Expr.not e).display ++
      " (negation is only supported on method calls and boolean fields)")) := by
  have hread : ¬e.isFieldRead = true := mt isFieldShaped_iff.2 hshape
  cases e with
  | call method target args => exact absurd rfl (hcall method target args)
  | _ => simp only [clause, hread, Bool.false_eq_true, ↓reduceIte]

theorem settles_clause (escape : Bool) {e : Expr} (alone : e.connective? = none) :
    Settles (clause escape e) e.IsPredicate e.OperandFault := by
  have hfalse (inner : Expr) := settles_truthClause inner false
  refine settles_of_cases ?_ ?_ ?_
  · intro he
    cases he with
    | joined hop hleft hright =>
      rcases hop with rfl | rfl <;> simp [connective?, Connective.ofBinary?] at alone
    | comparison h => exact (settles_comparisonClause _ _ _).ok_iff.2 h
    | field h =>
      rw [clause_of_isFieldShaped escape h.isFieldShaped]
      exact (settles_truthClause e true).ok_iff.2 h
    | notField h =>
      rw [clause_not_of_isFieldShaped escape h.isFieldShaped]
      exact (hfalse _).ok_iff.2 h
    | call h => exact (settles_callClause escape false _ _ _).ok_iff.2 h
    | notCall h => exact (settles_callClause escape true _ _ _).ok_iff.2 h
  · intro x hx
    cases hx with
    | comparison h => exact ((settles_comparisonClause _ _ _).error_iff x).2 h
    | field h => exact ((settles_truthClause _ true).error_iff x).2 h
    | member h => exact ((settles_truthClause _ true).error_iff x).2 h
    | notField hshape h =>
      rw [clause_not_of_isFieldShaped escape hshape]
      exact ((hfalse _).error_iff x).2 h
    | call h => exact ((settles_callClause escape false _ _ _).error_iff x).2 h
    | notCall h => exact ((settles_callClause escape true _ _ _).error_iff x).2 h
    | notOther hshape hcall => exact clause_not_of_other escape hshape hcall
    | constant v => rfl
    | captured name members => rfl
  · cases e with
    | field path =>
      exact (settles_fieldPath (.field path)).cases.imp .field (Exists.imp fun _ => .field)
    | member target name =>
      exact (settles_fieldPath (.member target name)).cases.imp .field
        (Exists.imp fun _ => .member)
    | constant v => exact Or.inr ⟨_, .constant v⟩
    | captured name members => exact Or.inr ⟨_, .captured name members⟩
    | binary op left right =>
      exact (settles_comparisonClause op left right).cases.imp .comparison
        (Exists.imp fun _ => .comparison)
    | call method target args =>
      exact (settles_callClause escape false method target args).cases.imp .call
        (Exists.imp fun _ => .call)
    | not inner =>
      by_cases hshape : inner.IsFieldShaped
      · exact (settles_fieldPath inner).cases.imp .notField
          (Exists.imp fun _ => .notField hshape)
      · by_cases hcall : ∃ method target args, inner = .call method target args
        · obtain ⟨method, target, args, rfl⟩ := hcall
          exact (settles_callClause escape true method target args).cases.imp .notCall
            (Exists.imp fun _ => .notCall)
        · refine Or.inr ⟨_, .notOther hshape ?_⟩
          intro method target args h
          exact hcall ⟨method, target, args, h⟩

theorem isPredicate_joined_iff {op : BinaryOp} (hop : op = .and ∨ op = .or) {left right : Expr} :
    (Expr.binary op left right).IsPredicate ↔ left.IsPredicate ∧ right.IsPredicate := by
  refine ⟨?_, fun ⟨hleft, hright⟩ => .joined hop hleft hright⟩
  intro h
  cases h with
  | joined hop hleft hright => exact ⟨hleft, hright⟩
  | comparison h =>
    have hmem := h.operator
    rcases hop with rfl | rfl <;> simp [comparisons] at hmem
  | field h =>
    obtain ⟨segments, hreads, -⟩ := h
    cases hreads

theorem isPredicate_iff_operands (e : Expr) :
    e.IsPredicate ↔ ∀ o ∈ e.operands, o.IsPredicate := by
  fun_induction operands e with
  | case1 left right ihl ihr =>
    rw [isPredicate_joined_iff (Or.inl rfl), ihl, ihr, List.forall_mem_append]
  | case2 left right ihl ihr =>
    rw [isPredicate_joined_iff (Or.inr rfl), ihl, ihr, List.forall_mem_append]
  | case3 e hand hor => rw [List.forall_mem_singleton]

/-- There is a clause tree just for the predicates of the grammar. Otherwise the error is the fault
of the leftmost operand that is no predicate. -/
theorem tree_settled_by_grammar (escape : Bool) (e : Expr) :
    ((∃ t, e.tree escape = .ok t) ↔ e.IsPredicate) ∧
      ∀ x, e.tree escape = .error x ↔
        ∃ before o after, e.operands = before ++ o :: after ∧
          (∀ b ∈ before, b.IsPredicate) ∧ o.OperandFault x := by
  have hclause {o : Expr} (ho : o ∈ e.operands) :=
    settles_clause escape (connective?_of_mem_operands ho)
  -- an operand alone has a clause just if it is a predicate, whatever connectives do with it
  have hunit {o : Expr} (ho : o ∈ e.operands) :
      (clause escape o).map (fun _ => ()) = .ok () ↔ o.IsPredicate := by
    rw [map_eq_ok_iff, ← (hclause ho).ok_iff]
    simp
  have hforM := condition_eq_forM escape e
  constructor
  · calc (∃ t, e.tree escape = .ok t)
        ↔ (e.condition escape).map (fun _ => ()) = .ok () := by
          rw [tree_eq_map]
          cases e.condition escape <;> simp
      _ ↔ ∀ o ∈ e.operands, (clause escape o).map (fun _ => ()) = .ok () := by
          rw [hforM, forM_eq_ok_iff]
      _ ↔ ∀ o ∈ e.operands, o.IsPredicate := forall₂_congr fun o ho => hunit ho
      _ ↔ e.IsPredicate := (isPredicate_iff_operands e).symm
  · intro x
    have herror : e.tree escape = .error x ↔
        (e.condition escape).map (fun _ => ()) = .error x := by
      rw [tree_eq_map, map_eq_error_iff, map_eq_error_iff]
    rw [herror, hforM, forM_eq_error_iff]
    refine exists_congr fun before => exists_congr fun o => exists_congr fun after => ?_
    refine and_congr_right fun hsplit => and_congr ?_ ?_
    · refine forall₂_congr fun b hb => hunit ?_
      rw [hsplit]
      exact List.mem_append_left _ hb
    · rw [map_eq_error_iff]
      refine (hclause ?_).error_iff x
      rw [hsplit]
      simp

example : (Expr.binary .and (.binary .lt (.field "Age") (.constant (.int 3)))
    (.binary .or (.field "a.b.c") (.constant .null))).tree false =
      .error (.unsupportedNesting "a.b.c") := rfl

end SqlFilter.Expr
