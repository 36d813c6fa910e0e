import SqlFilter.Proofs.Reading.OfPrint
/-! Compiled predicates are canonical. A query and the flattened form of its predicate determine
each other, so nothing but the nesting of runs of one connective can be changed without a change of
the query. -/
namespace SqlFilter

/-- What a test compares: a field by an operator with a value. -/
abbrev Comparison := String × Operator × Value

def Clause.comparison (a : Clause) : Comparison :=
  (a.field, a.operator, a.value)

/-- A test for null is the comparison of a predicate with null. -/
def Test.comparison : Test → Comparison
  | .isNull field => (field, .eq, .null)
  | .isNotNull field => (field, .ne, .null)
  | .against field operator value => (field, operator, value)

/-- The comparison of a clause can be told from its test. -/
theorem Clause.Sound.comparison_test {a : Clause} (ha : a.Sound) :
    a.test.comparison = a.comparison := by
  obtain ⟨field, operator, value, nested⟩ := a
  have hsuits : operator.Suits value := ha.suits
  cases value with
  | null => rcases Operator.eq_or_ne_of_suits_null hsuits with rfl | rfl <;> rfl
  | _ => rfl

def Comparison.test (x : Comparison) : Test :=
  Clause.test ⟨x.1, x.2.1, x.2.2, false⟩

theorem Clause.test_comparison (a : Clause) : a.comparison.test = a.test := rfl

namespace Expr

/-- The flattened form of a predicate: its tests in order, with each run of one connective as one
node. -/
def flattened (escape : Bool) (e : Expr) : Except CompileError (Condition Comparison) :=
  (e.condition escape).map (Condition.map Clause.comparison)

/-- Predicates that differ in the nesting of runs of one connective only. -/
inductive Regrouped : Expr → Expr → Prop
  | refl (e : Expr) : Regrouped e e
  | symm {e e' : Expr} (h : Regrouped e e') : Regrouped e' e
  | trans {e e' e'' : Expr} (h : Regrouped e e') (h' : Regrouped e' e'') : Regrouped e e''
  | assoc {op : BinaryOp} {connective : Connective}
      (hop : Connective.ofBinary? op = some connective) (a b c : Expr) :
      Regrouped (.binary op (.binary op a b) c) (.binary op a (.binary op b c))
  | inside {op : BinaryOp} {connective : Connective} {a a' b b' : Expr}
      (hop : Connective.ofBinary? op = some connective) (ha : Regrouped a a')
      (hb : Regrouped b b') : Regrouped (.binary op a b) (.binary op a' b')

variable {escape : Bool}

theorem Flattens.map_test_eq_iff {e e' : Expr} {c c' : Condition Clause}
    (h : e.Flattens escape c) (h' : e'.Flattens escape c') :
    c.map Clause.test = c'.map Clause.test ↔ c.map Clause.comparison = c'.map Clause.comparison := by
  have hcomparison {e : Expr} {c : Condition Clause} (h : e.Flattens escape c) :
      (c.map Clause.test).map Test.comparison = c.map Clause.comparison := by
    rw [Condition.map_map]
    exact Condition.map_congr c (fun a ha => (h.sound a ha).comparison_test)
  have htest (c : Condition Clause) :
      (c.map Clause.comparison).map Comparison.test = c.map Clause.test := by
    rw [Condition.map_map]
    exact Condition.map_congr c (fun a _ => a.test_comparison)
  constructor
  · intro heq
    rw [← hcomparison h, heq, hcomparison h']
  · intro heq
    rw [← htest c, heq, htest c']

/-- The nesting of runs does not show in the flat condition, nor in the error. -/
theorem Regrouped.condition_eq {e e' : Expr} (h : e.Regrouped e') :
    e.condition escape = e'.condition escape := by
  induction h with
  | refl e => rfl
  | symm _ ih => exact ih.symm
  | trans _ _ ih ih' => exact ih.trans ih'
  | assoc hop a b c =>
    simp only [condition, hop]
    cases a.condition escape with
    | error x => rfl
    | ok l =>
      cases b.condition escape with
      | error x => rfl
      | ok m => cases c.condition escape <;> simp [Condition.merge_assoc]
  | inside hop _ _ iha ihb => simp only [condition, hop, iha, ihb]

theorem compile_eq_of_condition_eq (compiler : Compiler) {e e' : Expr}
    (h : e.condition compiler.options.escapeWildcards =
      e'.condition compiler.options.escapeWildcards) :
    compiler.compile e = compiler.compile e' := by
  unfold Compiler.compile Compiler.tree
  rw [tree_eq_map, tree_eq_map, h]

/-- Predicates that compile under the same options compile to the same query exactly if they have
the same flattened form. Regrouping a predicate never changes what it compiles to. -/
theorem compile_eq_iff_flattened_eq (options : CompileOptions) :
    (∀ (s s' : Option Schema) (e e' : Expr) (q q' : Query),
      Compiler.compile ⟨options, s⟩ e = .ok q → Compiler.compile ⟨options, s'⟩ e' = .ok q' →
        (q = q' ↔
          e.flattened options.escapeWildcards = e'.flattened options.escapeWildcards)) ∧
      ∀ (s : Option Schema) (e e' : Expr), e.Regrouped e' →
        Compiler.compile ⟨options, s⟩ e = Compiler.compile ⟨options, s⟩ e' := by
  refine ⟨?_, fun s e e' h => compile_eq_of_condition_eq ⟨options, s⟩ h.condition_eq⟩
  intro s s' e e' q q' hq hq'
  obtain ⟨c, hc, rfl⟩ := compile_eq_ok hq
  obtain ⟨c', hc', rfl⟩ := compile_eq_ok hq'
  have hflattened : e.flattened options.escapeWildcards = e'.flattened options.escapeWildcards ↔
      c.map Clause.comparison = c'.map Clause.comparison := by
    simp only [flattened, hc.condition_eq, hc'.condition_eq, ok_map, Except.ok.injEq]
  rw [hflattened, ← hc.map_test_eq_iff hc']
  constructor
  · intro heq
    -- equal queries are read as equal conditions
    have hread := congrArg Query.condition? heq
    rwa [hc.condition?_print, hc'.condition?_print, Option.some.injEq] at hread
  · intro heq
    rw [heq]

theorem compile_eq_iff_flattened_eq_keywords :
    let a : Expr := .binary .eq (.field "AND") (.constant (.int 1))
    let b : Expr := .field "OR"
    let e : Expr := .binary .and (.binary .and a b) a
    let e' : Expr := .binary .and a (.binary .and b a)
    let q : Query := ⟨"AND = @AND_p0 AND OR = @OR_p1 AND AND = @AND_p2",
      [⟨"AND_p0", .int 1⟩, ⟨"OR_p1", .bool true⟩, ⟨"AND_p2", .int 1⟩]⟩
    Compiler.compile default e = .ok q ∧ Compiler.compile default e' = .ok q ∧
      e.flattened false = e'.flattened false ∧
      Compiler.compile default e = Compiler.compile default e' := by
  intro a b e e' q
  have hq : Compiler.compile default e = .ok q := rfl
  have hq' : Compiler.compile default e' = .ok q := rfl
  obtain ⟨hiff, hregrouped⟩ := compile_eq_iff_flattened_eq .default
  exact ⟨hq, hq', (hiff none none e e' q q hq hq').1 rfl, hregrouped none e e' (.assoc rfl a b a)⟩

end Expr
end SqlFilter
