import SqlFilter.Proofs.Condition.OfExpr
/-! The operands of a predicate: what its connectives join, from left to right. A predicate has a
condition just if each of them has a clause. -/
namespace SqlFilter.Expr

def operands : Expr → List Expr
  | .binary .and left right | .binary .or left right => left.operands ++ right.operands
  | e => [e]

theorem operands_of_connective {op : BinaryOp} {connective : Connective} {left right : Expr}
    (hop : Connective.ofBinary? op = some connective) :
    (Expr.binary op left right).operands = left.operands ++ right.operands := by
  cases op <;> simp only [Connective.ofBinary?, reduceCtorEq] at hop <;> rw [operands]

theorem operands_of_alone {e : Expr} (alone : e.connective? = none) : e.operands = [e] := by
  cases e with
  | binary op left right =>
    cases op with
    | and | or => simp [connective?, Connective.ofBinary?] at alone
    | _ => simp [operands]
  | _ => simp [operands]

theorem connective?_of_not_joined {e : Expr} (hand : ∀ l r, e = .binary .and l r → False)
    (hor : ∀ l r, e = .binary .or l r → False) : e.connective? = none := by
  cases e with
  | binary op left right =>
    cases op with
    | and => exact (hand left right rfl).elim
    | or => exact (hor left right rfl).elim
    | _ => rfl
  | _ => rfl

theorem connective?_of_mem_operands {e o : Expr} (ho : o ∈ e.operands) : o.connective? = none := by
  fun_induction operands e with
  | case1 left right ihl ihr => exact (List.mem_append.1 ho).elim ihl ihr
  | case2 left right ihl ihr => exact (List.mem_append.1 ho).elim ihl ihr
  | case3 e hand hor =>
    rw [List.mem_singleton.1 ho]
    exact connective?_of_not_joined hand hor

/-- Whether and why there is no condition is found by looking at one operand after the other. -/
theorem condition_eq_forM (escape : Bool) (e : Expr) :
    (e.condition escape).map (fun _ => ()) =
      e.operands.forM fun o => (clause escape o).map fun _ => () := by
  have halone {e : Expr} (alone : e.connective? = none) :
      (do return Condition.test (← clause escape e) : Except CompileError (Condition Clause)).map
        (fun _ => ()) = forM e.operands fun o => (clause escape o).map fun _ => () := by
    rw [operands_of_alone alone]
    cases h : clause escape e <;> simp [h]
  rw [List.forM_eq_forM]
  fun_induction condition escape e with
  | case1 op left right connective hop ihl ihr =>
    rw [operands_of_connective hop, List.forM_append, ← ihl, ← ihr]
    cases left.condition escape with
    | error x => rfl
    | ok l => cases right.condition escape <;> rfl
  | case2 op left right hop => exact halone hop
  | case3 e he => exact halone (connective?_of_ne_binary he)

/-- The tests of a condition are the clauses of the operands. -/
theorem Flattens.forall₂_operands {escape : Bool} {e : Expr} {c : Condition Clause}
    (h : e.Flattens escape c) :
    List.Forall₂ (fun o a => clause escape o = .ok a) e.operands c.tests := by
  induction h with
  | test alone ha =>
    rw [operands_of_alone alone, Condition.tests]
    exact .cons ha .nil
  | joined hop hl hr ihl ihr =>
    rw [operands_of_connective hop, Condition.tests_merge]
    exact List.rel_append ihl ihr

end SqlFilter.Expr
