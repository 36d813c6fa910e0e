import SqlFilter.Proofs.Condition.Blank
import SqlFilter.Proofs.Condition.Operands
import SqlFilter.Proofs.NameMap
/-! Predicates apart from their values. What a clause looks like is read off the expression with all
values left out, except for whether it compares with null; so values reach parameters and never the
text. -/
namespace SqlFilter

namespace Expr

mutual

/-- The expression with null for every literal and every member of a captured object. -/
def skeleton : Expr → Expr
  | .field path => .field path
  | .constant _ => .constant .null
  | .captured name members => .captured name (members.map fun _ => .null)
  | .member target name => .member target.skeleton name
  | .binary op left right => .binary op left.skeleton right.skeleton
  | .not operand => .not operand.skeleton
  | .call method target args => .call method (skeletonTarget target) (skeletonArgs args)

def skeletonTarget : Option Expr → Option Expr
  | none => none
  | some target => some target.skeleton

def skeletonArgs : List Expr → List Expr
  | [] => []
  | e :: es => e.skeleton :: skeletonArgs es

end

/-- Whether it is a comparison, and one with null. -/
def comparesWithNull : Expr → Bool
  | .binary _ _ right => match right.operand with
    | .ok v => v.isNull
    | .error _ => false
  | _ => false

theorem comparesWithNull_calling (negated : Bool) (method : String) (target : Option Expr)
    (args : List Expr) : (calling negated method target args).comparesWithNull = false := by
  cases negated <;> rfl

/-- An operand compares with null just if its clause is a test for null. -/
theorem comparesWithNull_of_clause {escape : Bool} {o : Expr} {a : Clause}
    (h : clause escape o = .ok a) : o.comparesWithNull = a.value.isNull := by
  have htruth {e : Expr} {b : Bool} (h : e.truthClause b = .ok a) : a.value.isNull = false := by
    obtain ⟨field, -, rfl⟩ := truthClause_eq_ok h
    rfl
  cases hasClause_of_clause h with
  | field ha | member ha | notField ha | notMember ha => exact (htruth ha).symm
  | comparison ha =>
    obtain ⟨operator, field, v, -, -, hv, -, rfl⟩ := comparisonClause_eq_ok ha
    rw [comparesWithNull, hv]
    rfl
  | call negated ha =>
    rw [comparesWithNull_calling]
    obtain ⟨kind, -, ⟨receiver, -, -, -, ha⟩ | ⟨-, -, ha⟩⟩ := callClause_cases ha
    · obtain ⟨field, arg, rest, v, pattern, -, -, -, -, rfl⟩ := matchClause_eq_ok ha
      rfl
    · obtain ⟨collection, element, field, items, -, -, -, rfl⟩ := membershipClause_eq_ok ha
      rfl

theorem skeletonTarget_eq_map (target : Option Expr) :
    skeletonTarget target = target.map skeleton := by
  cases target <;> rfl

theorem skeletonArgs_eq_map (args : List Expr) : skeletonArgs args = args.map skeleton := by
  induction args with
  | nil => rfl
  | cons e es ih => simp only [skeletonArgs, ih, List.map_cons]

theorem segments?_skeleton : ∀ e : Expr, e.skeleton.segments? = e.segments?
  | .member target name => by simp only [skeleton, segments?, segments?_skeleton target]
  | .field _ | .constant _ | .captured _ _ | .binary _ _ _ | .not _ | .call _ _ _ => rfl

theorem isFieldRead_skeleton (e : Expr) : e.skeleton.isFieldRead = e.isFieldRead := by
  simp only [isFieldRead, segments?_skeleton]

/-- The name of the field that the expression reads, if its path is in order. -/
def fieldName? (e : Expr) : Option String :=
  (e.fieldPath.toOption).map (·.name)

theorem fieldName?_of_fieldPath {e : Expr} {field : FieldPath} (h : e.fieldPath = .ok field) :
    e.fieldName? = some field.name := by
  rw [fieldName?, toOption_ok h, Option.map_some]

theorem fieldName?_skeleton (e : Expr) : e.skeleton.fieldName? = e.fieldName? := by
  simp only [fieldName?, fieldPath, segments?_skeleton]
  cases e.segments? with
  | none => rfl
  | some segments => rfl

theorem connective?_skeleton (e : Expr) : e.skeleton.connective? = e.connective? := by
  cases e <;> rfl

theorem methodOn_skeleton (kind : Method) (target : Option Expr) :
    methodOn kind (target.map skeleton) = methodOn kind target := by
  cases target with
  | none => rfl
  | some t => cases kind <;> simp [methodOn, isFieldRead_skeleton]

theorem membershipParts?_skeleton (target : Option Expr) (args : List Expr) :
    membershipParts? (target.map skeleton) (args.map skeleton) =
      (membershipParts? target args).map fun parts => (parts.1.skeleton, parts.2.skeleton) := by
  have hread : isFieldRead ∘ skeleton = isFieldRead := funext isFieldRead_skeleton
  cases target with
  | some collection => cases args <;> rfl
  | none =>
    cases args with
    | nil => rfl
    | cons collection rest =>
      have hfind : ((collection :: rest).map skeleton).reverse.find? isFieldRead =
          ((collection :: rest).reverse.find? isFieldRead).map skeleton := by
        rw [← List.map_reverse, List.find?_map, hread]
      rw [List.map_cons] at hfind ⊢
      simp only [Option.map_none, membershipParts?, hfind]
      cases (collection :: rest).reverse.find? isFieldRead <;> rfl

theorem operands_skeleton (e : Expr) : e.skeleton.operands = e.operands.map skeleton := by
  fun_induction operands e with
  | case1 left right ihl ihr => rw [skeleton, operands, ihl, ihr, List.map_append]
  | case2 left right ihl ihr => rw [skeleton, operands, ihl, ihr, List.map_append]
  | case3 e hand hor =>
    have alone : e.skeleton.connective? = none := by
      rw [connective?_skeleton]
      exact connective?_of_not_joined hand hor
    rw [operands_of_alone alone, List.map_singleton]

/-- The test of a call, without its value. -/
def outlineCall? (negated : Bool) (method : String) (target : Option Expr) (args : List Expr) :
    Option Test := do
  let kind ← (Method.ofName method).toOption
  let on := methodOn kind target
  let reader := if on.isPatternMatch then target else (membershipParts? target args).map (·.2)
  let field ← reader.bind fieldName?
  return .against field (on.operator negated) .null

/-- The test of an operand of connectives without its value, given whether that is null. -/
def outline? (null : Bool) : Expr → Option Test
  | .binary op left _ => do
    let operator ← Operator.ofComparison? op
    let field ← left.fieldName?
    if null then return if operator.isEquality then .isNull field else .isNotNull field
    else return .against field operator .null
  | .call method target args => outlineCall? false method target args
  | .not (.call method target args) => outlineCall? true method target args
  | .not operand => operand.fieldName?.map fun field => .against field .eq .null
  | e => e.fieldName?.map fun field => .against field .eq .null

theorem bind_fieldName?_skeleton (reader : Option Expr) :
    (reader.map skeleton).bind fieldName? = reader.bind fieldName? := by
  cases reader with
  | none => rfl
  | some e => exact fieldName?_skeleton e

theorem outlineCall?_skeleton (negated : Bool) (method : String) (target : Option Expr)
    (args : List Expr) :
    outlineCall? negated method (target.map skeleton) (args.map skeleton) =
      outlineCall? negated method target args := by
  have hreader (p : Bool) :
      (if p then target.map skeleton else
        (membershipParts? (target.map skeleton) (args.map skeleton)).map (·.2)) =
      (if p then target else (membershipParts? target args).map (·.2)).map skeleton := by
    rw [membershipParts?_skeleton]
    cases p <;> simp [Function.comp_def]
  simp only [outlineCall?, methodOn_skeleton, hreader, bind_fieldName?_skeleton]

theorem outline?_skeleton (null : Bool) (e : Expr) :
    e.skeleton.outline? null = e.outline? null := by
  have hfield (e : Expr) := congrArg (Option.map fun field => Test.against field .eq .null)
    (fieldName?_skeleton e)
  have he := hfield e
  cases e with
  | binary op left right => simp only [skeleton, outline?, fieldName?_skeleton]
  | call method target args =>
    simp only [skeleton, outline?, skeletonTarget_eq_map, skeletonArgs_eq_map,
      outlineCall?_skeleton]
  | not operand =>
    have hoperand := hfield operand
    cases operand with
    | call method target args =>
      simp only [skeleton, outline?, skeletonTarget_eq_map, skeletonArgs_eq_map,
        outlineCall?_skeleton]
    | _ => exact hoperand
  | _ => exact he

theorem outlineCall?_of_callClause {escape negated : Bool} {method : String} {target : Option Expr}
    {args : List Expr} {a : Clause}
    (h : callClause escape negated method target args = .ok a) :
    outlineCall? negated method target args = some a.test.blank := by
  obtain ⟨kind, hkind, ⟨receiver, rfl, -, hm, h⟩ | ⟨hon, hm, h⟩⟩ := callClause_cases h
  · obtain ⟨field, arg, rest, v, pattern, hfield, -, -, -, rfl⟩ := matchClause_eq_ok h
    simp [outlineCall?, toOption_ok hkind, hm, fieldName?_of_fieldPath hfield, clauseOn,
      Clause.test, Value.isNull, Test.blank]
  · obtain ⟨collection, element, field, items, hparts, hfield, -, rfl⟩ := membershipClause_eq_ok h
    have hpattern : kind.isPatternMatch = false := by rcases hm with rfl | rfl <;> rfl
    simp [outlineCall?, toOption_ok hkind, hon, hpattern, hparts, fieldName?_of_fieldPath hfield,
      clauseOn, Clause.test, Value.isNull, Test.blank]

theorem outline?_of_comparisonClause {op : BinaryOp} {left right : Expr} {a : Clause}
    (h : comparisonClause op left right = .ok a) :
    (Expr.binary op left right).outline? (Expr.binary op left right).comparesWithNull =
      some a.test.blank := by
  obtain ⟨operator, field, v, hop, hfield, hv, -, rfl⟩ := comparisonClause_eq_ok h
  have hnull : (Expr.binary op left right).comparesWithNull = v.isNull := by
    rw [comparesWithNull, hv]
  rw [hnull]
  simp only [outline?, hop, fieldName?_of_fieldPath hfield, clauseOn, Clause.test]
  by_cases hv : v.isNull = true
  · by_cases hequality : operator.isEquality = true <;> simp [hv, hequality, Test.blank]
  · simp [hv, Test.blank]

theorem fieldName?_map_of_truthClause {e : Expr} {b : Bool} {a : Clause}
    (h : e.truthClause b = .ok a) :
    (e.fieldName?.map fun field => Test.against field .eq .null) = some a.test.blank := by
  obtain ⟨field, hfield, rfl⟩ := truthClause_eq_ok h
  rw [fieldName?_of_fieldPath hfield]
  rfl

theorem outline?_of_clause {escape : Bool} {e : Expr} {a : Clause} (h : clause escape e = .ok a) :
    e.outline? e.comparesWithNull = some a.test.blank := by
  cases hasClause_of_clause h with
  | field ha | member ha | notField ha | notMember ha => exact fieldName?_map_of_truthClause ha
  | comparison ha => exact outline?_of_comparisonClause ha
  | call negated ha =>
    have houtline := outlineCall?_of_callClause ha
    cases negated <;> exact houtline

theorem Flattens.blank_eq {escape : Bool} {e e' : Expr} {c c' : Condition Clause}
    (h : e.Flattens escape c) (h' : e'.Flattens escape c') (hskeleton : e.skeleton = e'.skeleton)
    (hnull : e.operands.map comparesWithNull = e'.operands.map comparesWithNull) :
    (c.map Clause.test).map Test.blank = (c'.map Clause.test).map Test.blank := by
  -- both are put together alike, since the skeleton keeps the connectives
  induction h generalizing e' c' with
  | @test e a alone ha =>
    have alone' : e'.connective? = none := by
      rwa [← connective?_skeleton, ← hskeleton, connective?_skeleton]
    cases h' with
    | joined hop' hl' hr' => simp [connective?, hop'] at alone'
    | test _ ha' =>
      rw [operands_of_alone alone, operands_of_alone alone'] at hnull
      have hsame : e.comparesWithNull = e'.comparesWithNull := by simpa using hnull
      -- the outline of both is that of the common skeleton
      have houtline := outline?_of_clause ha
      rw [← outline?_skeleton, hskeleton, outline?_skeleton, hsame, outline?_of_clause ha']
        at houtline
      simp only [Condition.map, Option.some.inj houtline]
  | @joined op connective left right l r hop hl hr ihl ihr =>
    have hconnective := congrArg connective? hskeleton
    rw [connective?_skeleton, connective?_skeleton] at hconnective
    cases h' with
    | test alone' ha' =>
      rw [alone'] at hconnective
      simp [connective?, hop] at hconnective
    | @joined op' connective' left' right' l' r' hop' hl' hr' =>
      simp only [skeleton, binary.injEq] at hskeleton
      obtain ⟨rfl, hleft, hright⟩ := hskeleton
      obtain rfl := Option.some.inj (hop.symm.trans hop')
      -- so the flags of the left sides are those of the left operands
      have hlength : left.operands.length = left'.operands.length := by
        have h := congrArg (fun e => e.operands.length) hleft
        simpa only [operands_skeleton, List.length_map] using h
      rw [operands_of_connective hop, operands_of_connective hop, List.map_append,
        List.map_append] at hnull
      obtain ⟨hnulll, hnullr⟩ := List.append_inj hnull (by simpa using hlength)
      simp only [Condition.map_merge, ihl hl' hleft hnulll, ihr hr' hright hnullr]

/-- Predicates that differ in values only, and compare with null at the same places, compile to the
same text and to parameters of the same names. -/
theorem compile_eq_of_skeleton_eq {compiler : Compiler} {e e' : Expr} {q q' : Query}
    (hskeleton : e.skeleton = e'.skeleton)
    (hnull : e.operands.map comparesWithNull = e'.operands.map comparesWithNull)
    (hq : compiler.compile e = .ok q) (hq' : compiler.compile e' = .ok q') :
    q.sql = q'.sql ∧ q.parameters.map (·.name) = q'.parameters.map (·.name) := by
  obtain ⟨c, hc, rfl⟩ := compile_eq_ok hq
  obtain ⟨c', hc', rfl⟩ := compile_eq_ok hq'
  have hcondition := hc.blank_eq hc' hskeleton hnull
  have hblank := congrArg (Condition.print compiler.options.escapeWildcards 0) hcondition
  rw [Condition.print_map_blank, Condition.print_map_blank] at hblank
  have hsql := congrArg Query.sql hblank
  have hnames := congrArg (fun q => q.parameters.map (·.name)) hblank
  refine ⟨hsql, ?_⟩
  simpa [Query.blank, Function.comp_def] using hnames

theorem compile_eq_of_skeleton_eq_captured :
    let predicate (text minimum : Value) (ids : List Value) : Expr :=
      .binary .and
        (.binary .or (.call "StartsWith" (some (.field "Name")) [.constant text])
          (.binary .gt (.field "Age")
            (.member (.captured "limits" (NameMap.empty.insert "minimum" minimum)) "minimum")))
        (.call "Contains" (some (.constant (.list ids))) [.field "Id"])
    let e := predicate (.text "50%") (.int 3) [.int 1, .int 2]
    let e' := predicate .null (.text "x") []
    let q : Query := ⟨"(Name LIKE @Name_p0 ESCAPE '\\' OR Age > @Age_p1) AND Id IN @Id_p2",
      [⟨"Name_p0", .text "50\\%%"⟩, ⟨"Age_p1", .int 3⟩, ⟨"Id_p2", .list [.int 1, .int 2]⟩]⟩
    let q' : Query := ⟨"(Name LIKE @Name_p0 ESCAPE '\\' OR Age > @Age_p1) AND Id IN @Id_p2",
      [⟨"Name_p0", .text "%"⟩, ⟨"Age_p1", .text "x"⟩, ⟨"Id_p2", .list []⟩]⟩
    e.skeleton = e'.skeleton ∧
      e.operands.map comparesWithNull = e'.operands.map comparesWithNull ∧
      Compiler.compile ⟨⟨true, true⟩, none⟩ e = .ok q ∧
      Compiler.compile ⟨⟨true, true⟩, none⟩ e' = .ok q' ∧
      q.sql = q'.sql ∧ q.parameters.map (·.name) = q'.parameters.map (·.name) := by
  intro predicate e e' q q'
  have hskeleton : e.skeleton = e'.skeleton := rfl
  have hnull : e.operands.map comparesWithNull = e'.operands.map comparesWithNull := by
    simp only [e, e', predicate]
    rfl
  have hq : Compiler.compile ⟨⟨true, true⟩, none⟩ e = .ok q := by
    simp only [e, predicate, q]
    rfl
  have hq' : Compiler.compile ⟨⟨true, true⟩, none⟩ e' = .ok q' := by
    simp only [e', predicate, q']
    rfl
  exact ⟨hskeleton, hnull, hq, hq', compile_eq_of_skeleton_eq hskeleton hnull hq hq'⟩

end Expr
end SqlFilter
