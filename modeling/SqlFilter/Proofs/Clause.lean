import SqlFilter.ClauseTree.OfExpr
import SqlFilter.Proofs.Identifier
import SqlFilter.Proofs.Result
/-! What every clause of a predicate looks like: its field is an identifier, and its operator suits
its value. -/
namespace SqlFilter

/-- The values that may stand after an operator. Null is only ever equal or unequal, a pattern is a
text and a collection a list. -/
def Operator.Suits : Operator → Value → Prop
  | .eq, v | .ne, v => v.items? = none
  | .lt, v | .lte, v | .gt, v | .gte, v => v.items? = none ∧ v.isNull = false
  | .like, v | .notLike, v => ∃ s, v = .text s
  | .isIn, v | .notIn, v => ∃ items, v = .list items
  | .any, _ | .all, _ | .verbatim _, _ => False

theorem Operator.isEquality_iff {op : Operator} {v : Value} (h : op.Suits v) :
    op.isEquality = true ↔ op = .eq := by
  cases op with
  | verbatim token => exact h.elim
  | _ => decide

theorem Operator.isPatternMatch_iff {op : Operator} {v : Value} (h : op.Suits v) :
    op.isPatternMatch = true ↔ op = .like ∨ op = .notLike := by
  cases op with
  | verbatim token => exact h.elim
  | _ => decide

theorem Operator.eq_or_ne_of_suits_null {op : Operator} (h : op.Suits .null) :
    op = .eq ∨ op = .ne := by
  cases op with
  | eq => exact Or.inl rfl
  | ne => exact Or.inr rfl
  | lt | lte | gt | gte => exact absurd h.2 (by decide)
  | like | notLike | isIn | notIn =>
    obtain ⟨_, h⟩ := h
    simp at h
  | any | all => exact h.elim
  | verbatim token => exact h.elim

/-- A clause as predicates have them. -/
structure Clause.Sound (a : Clause) : Prop where
  field_identifier : isIdentifier a.field = true
  suits : a.operator.Suits a.value

theorem Expr.segments?_ne_nil {e : Expr} {segments : List String}
    (h : e.segments? = some segments) : segments ≠ [] := by
  cases e with
  | field path =>
    obtain rfl := Option.some.inj h
    exact dottedSegments_ne_nil path
  | member target name =>
    obtain ⟨init, -, rfl⟩ := Option.map_eq_some_iff.1 h
    simp
  | _ => simp [segments?] at h

theorem FieldPath.ofSegments_eq_ok {segments : List String} {f : FieldPath}
    (h : ofSegments segments = .ok f) :
    (∀ s ∈ segments, isIdentifier s = true) ∧ segments.length ≤ 2 ∧
      f = ⟨String.join segments, segments.length == 2⟩ := by
  simp only [ofSegments] at h
  split at h
  · rename_i hall
    split at h
    · simp at h
    · rename_i hlength
      exact ⟨List.all_eq_true.1 hall, Nat.not_lt.1 hlength, (Except.ok.inj h).symm⟩
  · simp at h

theorem FieldPath.isIdentifier_of_ofSegments {segments : List String} {f : FieldPath}
    (hne : segments ≠ []) (h : ofSegments segments = .ok f) : isIdentifier f.name = true := by
  obtain ⟨hall, hlength, rfl⟩ := ofSegments_eq_ok h
  rcases segments with - | ⟨s, - | ⟨t, - | ⟨u, us⟩⟩⟩
  · exact absurd rfl hne
  · simpa [String.join] using hall
  · obtain ⟨hs, ht⟩ := List.forall_mem_cons.1 hall
    have hchars := (isIdentifierChar_of_isIdentifier (ht t List.mem_cons_self)).2
    simpa [String.join] using isIdentifier_append hs hchars
  · simp at hlength

theorem Expr.isIdentifier_of_fieldPath {e : Expr} {f : FieldPath} (h : e.fieldPath = .ok f) :
    isIdentifier f.name = true := by
  unfold fieldPath at h
  split at h
  · simp at h
  · rename_i segments hs
    exact FieldPath.isIdentifier_of_ofSegments (segments?_ne_nil hs) h

theorem Method.operator_of_isPatternMatch {method : Method} (hm : method.isPatternMatch = true)
    (negated : Bool) : method.operator negated = if negated then .notLike else .like := by
  cases method with
  | startsWith | endsWith | stringContains => rfl
  | _ => exact absurd hm (by decide)

theorem Method.operator_of_membership {method : Method}
    (hm : method = .contains ∨ method = .elementOf) (negated : Bool) :
    method.operator negated = if negated then .notIn else .isIn := by
  rcases hm with rfl | rfl <;> rfl

namespace Expr

theorem truthClause_eq_ok {e : Expr} {b : Bool} {a : Clause} (h : e.truthClause b = .ok a) :
    ∃ field, e.fieldPath = .ok field ∧ a = clauseOn field .eq (.bool b) := by
  obtain ⟨field, hfield, h⟩ := bind_eq_ok_iff.1 h
  exact ⟨field, hfield, (Except.ok.inj h).symm⟩

theorem comparisonClause_eq_ok {op : BinaryOp} {left right : Expr} {a : Clause}
    (h : comparisonClause op left right = .ok a) :
    ∃ operator field value, Operator.ofComparison? op = some operator ∧
      left.fieldPath = .ok field ∧ right.operand = .ok value ∧ operator.Suits value ∧
      a = clauseOn field operator value := by
  unfold comparisonClause at h
  split at h
  · simp at h
  · rename_i operator hop
    obtain ⟨field, hfield, h⟩ := bind_eq_ok_iff.1 h
    obtain ⟨value, hvalue, h⟩ := bind_eq_ok_iff.1 h
    refine ⟨operator, field, value, hop, hfield, hvalue, ?_⟩
    split at h
    · split at h
      · rename_i hnull
        refine ⟨?_, (Except.ok.inj h).symm⟩
        rcases hnull with rfl | rfl <;> obtain rfl := Option.some.inj hop <;> rfl
      · simp at h
    · simp at h
    · rename_i hnull hlist
      refine ⟨?_, (Except.ok.inj h).symm⟩
      have hitems : value.items? = none := by
        cases value with
        | list items => exact (hlist items rfl).elim
        | _ => rfl
      have hisNull : value.isNull = false := by
        cases value with
        | null => exact (hnull rfl).elim
        | _ => rfl
      cases op <;> simp only [Operator.ofComparison?, Option.some.injEq, reduceCtorEq] at hop <;>
        subst hop <;> simp [Operator.Suits, hitems, hisNull]

theorem matchClause_eq_ok {escape negated : Bool} {method : Method} {call receiver : Expr}
    {args : List Expr} {a : Clause}
    (h : matchClause escape method negated call receiver args = .ok a) :
    ∃ field arg rest value pattern, receiver.fieldPath = .ok field ∧ args = arg :: rest ∧
      arg.operand = .ok value ∧ method.pattern value escape = .ok pattern ∧
      a = clauseOn field (method.operator negated) (.text pattern) := by
  obtain ⟨field, hfield, h⟩ := bind_eq_ok_iff.1 h
  cases args with
  | nil => simp at h
  | cons arg rest =>
    obtain ⟨value, hvalue, h⟩ := bind_eq_ok_iff.1 h
    obtain ⟨pattern, hpattern, h⟩ := bind_eq_ok_iff.1 h
    exact ⟨field, arg, rest, value, pattern, hfield, rfl, hvalue, hpattern,
      (Except.ok.inj h).symm⟩

theorem membershipClause_eq_ok {negated : Bool} {method : Method} {call : Expr}
    {target : Option Expr} {args : List Expr} {a : Clause}
    (h : membershipClause method negated call target args = .ok a) :
    ∃ collection element field items, membershipParts? target args = some (collection, element) ∧
      element.fieldPath = .ok field ∧ collection.collection = .ok items ∧
      a = clauseOn field (method.operator negated) (.list items) := by
  unfold membershipClause at h
  split at h
  · simp at h
  · rename_i collection element hparts
    obtain ⟨field, hfield, h⟩ := bind_eq_ok_iff.1 h
    obtain ⟨items, hitems, h⟩ := bind_eq_ok_iff.1 h
    exact ⟨collection, element, field, items, hparts, hfield, hitems, (Except.ok.inj h).symm⟩

/-- A call with a clause matches a text of the field that is its target, or tests for membership. -/
theorem callClause_cases {escape negated : Bool} {method : String} {target : Option Expr}
    {args : List Expr} {a : Clause} (h : callClause escape negated method target args = .ok a) :
    ∃ kind, Method.ofName method = .ok kind ∧
      ((∃ receiver, target = some receiver ∧ receiver.isFieldRead = true ∧
          (methodOn kind target).isPatternMatch = true ∧
          matchClause escape (methodOn kind target) negated (.call method target args) receiver
            args = .ok a) ∨
        (methodOn kind target = kind ∧ (kind = .contains ∨ kind = .elementOf) ∧
          membershipClause kind negated (.call method target args) target args = .ok a)) := by
  obtain ⟨kind, hkind, h⟩ := bind_eq_ok_iff.1 h
  refine ⟨kind, hkind, ?_⟩
  -- only a search in a text replaces the method of the call
  have hon : methodOn kind target = kind ∨ methodOn kind target = .stringContains := by
    unfold methodOn
    split
    · split
      · exact Or.inr rfl
      · exact Or.inl rfl
    · split
      · exact Or.inr rfl
      · exact Or.inl rfl
    · exact Or.inl rfl
  dsimp only at h
  cases hk : methodOn kind target with
  | startsWith | endsWith | stringContains =>
    simp only [hk] at h
    cases target with
    | none => simp at h
    | some receiver =>
      dsimp only at h
      split at h
      · rename_i hr
        exact Or.inl ⟨receiver, rfl, hr, rfl, h⟩
      · simp at h
  | contains | elementOf =>
    simp only [hk] at h
    have hkind : methodOn kind target = kind := by
      rcases hon with hon | hon
      · exact hon
      · simp [hk] at hon
    rw [hk] at hkind
    subst hkind
    exact Or.inr ⟨rfl, by simp, h⟩
  | any | all => simp [hk] at h

/-- A call, or its negation. -/
def calling (negated : Bool) (method : String) (target : Option Expr) (args : List Expr) : Expr :=
  if negated then .not (.call method target args) else .call method target args

/-- How an operand comes by its clause. -/
inductive HasClause (escape : Bool) (a : Clause) : Expr → Prop
  | field {path : String} (h : (Expr.field path).truthClause true = .ok a) :
      HasClause escape a (.field path)
  | member {target : Expr} {name : String} (h : (Expr.member target name).truthClause true = .ok a) :
      HasClause escape a (.member target name)
  | notField {path : String} (h : (Expr.field path).truthClause false = .ok a) :
      HasClause escape a (.not (.field path))
  | notMember {target : Expr} {name : String}
      (h : (Expr.member target name).truthClause false = .ok a) :
      HasClause escape a (.not (.member target name))
  | comparison {op : BinaryOp} {left right : Expr} (h : comparisonClause op left right = .ok a) :
      HasClause escape a (.binary op left right)
  | call (negated : Bool) {method : String} {target : Option Expr} {args : List Expr}
      (h : callClause escape negated method target args = .ok a) :
      HasClause escape a (calling negated method target args)

theorem hasClause_of_clause {escape : Bool} {o : Expr} {a : Clause} (h : clause escape o = .ok a) :
    HasClause escape a o := by
  cases o with
  | field path => exact .field h
  | member target name => exact .member h
  | binary op left right => exact .comparison h
  | call method target args => exact .call false h
  | not operand =>
    cases operand with
    | call method target args => exact .call true h
    | field path => exact .notField h
    | member target name =>
      simp only [clause] at h
      split at h
      · exact .notMember h
      · simp at h
    | _ => simp [clause, isFieldRead, segments?] at h
  | constant v => simp [clause] at h
  | captured name members => simp [clause] at h

theorem truthClause_sound {e : Expr} {b : Bool} {a : Clause} (h : e.truthClause b = .ok a) :
    a.Sound := by
  obtain ⟨field, hfield, rfl⟩ := truthClause_eq_ok h
  exact ⟨isIdentifier_of_fieldPath hfield, rfl⟩

theorem comparisonClause_sound {op : BinaryOp} {left right : Expr} {a : Clause}
    (h : comparisonClause op left right = .ok a) : a.Sound := by
  obtain ⟨operator, field, value, -, hfield, -, hsuits, rfl⟩ := comparisonClause_eq_ok h
  exact ⟨isIdentifier_of_fieldPath hfield, hsuits⟩

theorem callClause_sound {escape negated : Bool} {method : String} {target : Option Expr}
    {args : List Expr} {a : Clause}
    (h : callClause escape negated method target args = .ok a) : a.Sound := by
  obtain ⟨kind, -, ⟨receiver, -, -, hm, h⟩ | ⟨-, hm, h⟩⟩ := callClause_cases h
  · obtain ⟨field, arg, rest, value, pattern, hfield, -, -, -, rfl⟩ := matchClause_eq_ok h
    refine ⟨isIdentifier_of_fieldPath hfield, ?_⟩
    rw [clauseOn, Method.operator_of_isPatternMatch hm]
    cases negated <;> exact ⟨pattern, rfl⟩
  · obtain ⟨collection, element, field, items, -, hfield, -, rfl⟩ := membershipClause_eq_ok h
    refine ⟨isIdentifier_of_fieldPath hfield, ?_⟩
    rw [clauseOn, Method.operator_of_membership hm]
    cases negated <;> exact ⟨items, rfl⟩

theorem clause_sound {escape : Bool} {e : Expr} {a : Clause} (h : clause escape e = .ok a) :
    a.Sound := by
  cases hasClause_of_clause h with
  | field ha | member ha | notField ha | notMember ha => exact truthClause_sound ha
  | comparison ha => exact comparisonClause_sound ha
  | call negated ha => exact callClause_sound ha

end Expr
end SqlFilter
