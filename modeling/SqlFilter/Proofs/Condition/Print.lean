import SqlFilter.Compiler
import SqlFilter.Proofs.Condition.OfExpr
import SqlFilter.Proofs.Parameter
/-! Flat conditions as text. A condition prints its parts in order and puts a part in parentheses
exactly if it is a run itself; this is what the clause tree of the condition prints. -/
namespace SqlFilter

/-- What a clause says of its field. -/
inductive Test
  | isNull (field : String)
  | isNotNull (field : String)
  | against (field : String) (operator : Operator) (value : Value)
deriving Inhabited

/-- A clause with null tests for null, whatever its operator. -/
def Clause.test (a : Clause) : Test :=
  if a.value.isNull then
    if a.operator.isEquality then .isNull a.field else .isNotNull a.field
  else .against a.field a.operator a.value

namespace Test

/-- A test that can be printed as SQL. -/
def Readable : Test → Prop
  | .isNull field | .isNotNull field => isIdentifier field = true
  | .against field operator value => isIdentifier field = true ∧ operator.Suits value

/-- The field that is tested. -/
def field : Test → String
  | .isNull field | .isNotNull field | .against field _ _ => field

theorem Readable.isIdentifier_field {t : Test} (ht : t.Readable) : isIdentifier t.field = true := by
  cases t with
  | isNull field | isNotNull field => exact ht
  | against field op v => exact ht.1

/-- What a test binds for its field. A test for null binds nothing. -/
def bound? : Test → Option (String × Value)
  | .isNull _ | .isNotNull _ => none
  | .against field _ value => some (field, value)

theorem field_of_bound? {t : Test} {b : String × Value} (h : t.bound? = some b) :
    t.field = b.1 := by
  cases t with
  | isNull field | isNotNull field => simp [bound?] at h
  | against field op v =>
    obtain rfl := Option.some.inj h
    rfl

/-- The text of a test whose parameter has the given number. -/
def print (escape : Bool) (index : Nat) : Test → Query
  | .isNull field => .ofText (field ++ " IS NULL")
  | .isNotNull field => .ofText (field ++ " IS NOT NULL")
  | .against field operator value =>
    ⟨field ++ " " ++ operator.token ++ " @" ++ numberedName field index ++
      (if escape && operator.isPatternMatch then " ESCAPE '\\'" else ""),
      [⟨numberedName field index, value⟩]⟩

end Test

namespace Query

@[simp] theorem sql_append (q r : Query) : (q ++ r).sql = q.sql ++ r.sql := rfl

@[simp] theorem parameters_append (q r : Query) :
    (q ++ r).parameters = q.parameters ++ r.parameters := rfl

@[simp] theorem sql_ofText (s : String) : (ofText s).sql = s := rfl

@[simp] theorem parameters_ofText (s : String) : (ofText s).parameters = [] := rfl

@[ext] theorem ext {q r : Query} (hsql : q.sql = r.sql) (hps : q.parameters = r.parameters) :
    q = r := by
  cases q
  cases r
  simp only at hsql hps
  rw [hsql, hps]

theorem append_assoc (q r s : Query) : q ++ r ++ s = q ++ (r ++ s) := by
  ext1
  · simp only [sql_append, String.append_assoc]
  · simp only [parameters_append, List.append_assoc]

/-- Among all parameters, those of the query are found with their values. -/
def BoundIn (ps : List Parameter) (q : Query) : Prop :=
  ∀ p ∈ q.parameters, parameterValue? ps p.name = some p.value

theorem BoundIn.left {ps : List Parameter} {q r : Query} (h : (q ++ r).BoundIn ps) :
    q.BoundIn ps := fun p hp => h p (List.mem_append_left _ hp)

theorem BoundIn.right {ps : List Parameter} {q r : Query} (h : (q ++ r).BoundIn ps) :
    r.BoundIn ps := fun p hp => h p (List.mem_append_right _ hp)

@[simp] theorem append_ofText_empty (q : Query) : q ++ ofText "" = q := by
  ext1 <;> simp

end Query

theorem Clause.Sound.readable_test {a : Clause} (ha : a.Sound) : a.test.Readable := by
  unfold Clause.test
  split
  · split
    · exact ha.field_identifier
    · exact ha.field_identifier
  · exact ⟨ha.field_identifier, ha.suits⟩

theorem Clause.field_test (a : Clause) : a.test.field = a.field := by
  unfold test
  split
  · split <;> rfl
  · rfl

theorem Clause.render_eq_print (escape : Bool) (index : Nat) (a : Clause) :
    a.render escape index = a.test.print escape index := by
  unfold render test
  split
  · split <;> simp [Test.print]
  · simp [Test.print, parameterName, numberedName]

namespace Condition

mutual

/-- A condition as a part of another one. -/
def printPart (escape : Bool) (index : Nat) : Condition Test → Query
  | .test t => t.print escape index
  | .joined op parts => .ofText "(" ++ printRun escape op index parts ++ .ofText ")"

/-- The parts of a run with the connective between them. -/
def printRun (escape : Bool) (op : Connective) (index : Nat) : List (Condition Test) → Query
  | [] => .ofText ""
  | p :: ps =>
    let first := p.printPart escape index
    first ++ printMore escape op (index + first.parameters.length) ps

/-- Further parts of a run, each after the connective. -/
def printMore (escape : Bool) (op : Connective) (index : Nat) : List (Condition Test) → Query
  | [] => .ofText ""
  | p :: ps =>
    let first := p.printPart escape index
    .ofText (" " ++ op.token ++ " ") ++ first ++
      printMore escape op (index + first.parameters.length) ps

end

/-- A condition that stands alone. -/
def print (escape : Bool) (index : Nat) : Condition Test → Query
  | .test t => t.print escape index
  | .joined op parts => printRun escape op index parts

theorem parameters_print_test (escape : Bool) (index : Nat) (t : Test) :
    (t.print escape index).parameters = numbered index t.bound?.toList := by
  cases t <;> simp [Test.print, Test.bound?, numbered]

mutual

/-- The parameters of a condition are the values of its tests, numbered in order. -/
theorem parameters_printPart (escape : Bool) : ∀ (index : Nat) (c : Condition Test),
    (c.printPart escape index).parameters = numbered index (c.tests.filterMap Test.bound?)
  | index, .test t => by
    rw [printPart, parameters_print_test]
    cases h : t.bound? <;> simp [tests, h]
  | index, .joined op parts => by
    simp [printPart, tests, parameters_printRun escape op index parts]

theorem parameters_printRun (escape : Bool) (op : Connective) :
    ∀ (index : Nat) (ps : List (Condition Test)),
      (printRun escape op index ps).parameters =
        numbered index ((testsOf ps).filterMap Test.bound?)
  | index, [] => by simp [printRun, testsOf, numbered]
  | index, p :: ps => by
    simp only [printRun, Query.parameters_append, parameters_printPart escape index p,
      length_numbered, parameters_printMore escape op _ ps, testsOf, List.filterMap_append,
      numbered_append]

theorem parameters_printMore (escape : Bool) (op : Connective) :
    ∀ (index : Nat) (ps : List (Condition Test)),
      (printMore escape op index ps).parameters =
        numbered index ((testsOf ps).filterMap Test.bound?)
  | index, [] => by simp [printMore, testsOf, numbered]
  | index, p :: ps => by
    simp only [printMore, Query.parameters_append, Query.parameters_ofText, List.nil_append,
      parameters_printPart escape index p, length_numbered, parameters_printMore escape op _ ps,
      testsOf, List.filterMap_append, numbered_append]

end

theorem parameters_print (escape : Bool) (index : Nat) (c : Condition Test) :
    (c.print escape index).parameters = numbered index (c.tests.filterMap Test.bound?) := by
  cases c with
  | test t => exact parameters_printPart escape index (.test t)
  | joined op parts => exact parameters_printRun escape op index parts

theorem boundIn_parameters_print (escape : Bool) (index : Nat) (c : Condition Test) :
    (c.print escape index).BoundIn (c.print escape index).parameters := by
  intro p hp
  -- the parameters have names of their own, whatever the fields are
  refine parameterValue?_of_mem ?_ hp
  rw [parameters_print]
  exact nodup_names_numbered _ _

/-- What tests have when they are printed, and what printing keeps: `P` of conditions and `More` of
the further parts of a run. -/
structure Keeps (escape : Bool) (P More : Query → Prop) : Prop where
  nothing : P (.ofText "") ∧ More (.ofText "")
  test (index : Nat) {t : Test} (ht : t.Readable) : P (t.print escape index)
  enclosed {q : Query} (hq : P q) : P (.ofText "(" ++ q ++ .ofText ")")
  run {q r : Query} (hq : P q) (hr : More r) : P (q ++ r)
  further (op : Connective) {q r : Query} (hq : P q) (hr : More r) :
    More (.ofText (" " ++ op.token ++ " ") ++ q ++ r)

namespace Keeps
variable {escape : Bool} {P More : Query → Prop} (h : Keeps escape P More)
include h

mutual

theorem printPart : ∀ (index : Nat) (c : Condition Test), (∀ t ∈ c.tests, t.Readable) →
    P (c.printPart escape index)
  | index, .test t, hc => h.test index (hc t (by simp [tests]))
  | index, .joined op parts, hc => by
    have hrun := printRun op index parts hc
    simpa only [Condition.printPart] using h.enclosed hrun

theorem printRun (op : Connective) : ∀ (index : Nat) (cs : List (Condition Test)),
    (∀ t ∈ testsOf cs, t.Readable) → P (Condition.printRun escape op index cs)
  | index, [], _ => h.nothing.1
  | index, c :: cs, hc => by
    simp only [testsOf, List.mem_append] at hc
    have hfirst := printPart index c (fun t ht => hc t (Or.inl ht))
    have hmore := printMore op (index + (c.printPart escape index).parameters.length) cs
      (fun t ht => hc t (Or.inr ht))
    simpa only [Condition.printRun] using h.run hfirst hmore

theorem printMore (op : Connective) : ∀ (index : Nat) (cs : List (Condition Test)),
    (∀ t ∈ testsOf cs, t.Readable) → More (Condition.printMore escape op index cs)
  | index, [], _ => h.nothing.2
  | index, c :: cs, hc => by
    simp only [testsOf, List.mem_append] at hc
    have hfirst := printPart index c (fun t ht => hc t (Or.inl ht))
    have hmore := printMore op (index + (c.printPart escape index).parameters.length) cs
      (fun t ht => hc t (Or.inr ht))
    simpa only [Condition.printMore] using h.further op hfirst hmore

end

/-- What printing keeps holds of every printed condition of readable tests. -/
theorem print (index : Nat) {c : Condition Test} (hc : ∀ t ∈ c.tests, t.Readable) :
    P (c.print escape index) := by
  cases c with
  | test t => exact h.test index (hc t (by simp [tests]))
  | joined op parts => exact h.printRun op index parts hc

end Keeps

theorem printMore_cons (escape : Bool) (op : Connective) (index : Nat) (p : Condition Test)
    (ps : List (Condition Test)) :
    printMore escape op index (p :: ps) =
      .ofText (" " ++ op.token ++ " ") ++ printRun escape op index (p :: ps) := by
  simp only [printMore, printRun, Query.append_assoc]

theorem printMore_append (escape : Bool) (op : Connective) (index : Nat)
    (ps qs : List (Condition Test)) :
    printMore escape op index (ps ++ qs) = printMore escape op index ps ++
      printMore escape op (index + (printMore escape op index ps).parameters.length) qs := by
  induction ps generalizing index with
  | nil => ext1 <;> simp [printMore]
  | cons p ps ih =>
    simp only [List.cons_append, printMore, ih, Query.append_assoc, Query.parameters_append,
      Query.parameters_ofText, List.nil_append, List.length_append, Nat.add_assoc]

theorem printRun_append (escape : Bool) (op : Connective) (index : Nat)
    {ps qs : List (Condition Test)} (hps : ps ≠ []) (hqs : qs ≠ []) :
    printRun escape op index (ps ++ qs) = printRun escape op index ps ++
      (.ofText (" " ++ op.token ++ " ") ++
        printRun escape op (index + (printRun escape op index ps).parameters.length) qs) := by
  obtain ⟨p, ps, rfl⟩ := List.exists_cons_of_ne_nil hps
  obtain ⟨q, qs, rfl⟩ := List.exists_cons_of_ne_nil hqs
  simp only [List.cons_append, printRun, printMore_append, Query.append_assoc,
    Query.parameters_append, List.length_append, ← Nat.add_assoc, printMore]

theorem print_merge (escape : Bool) (op : Connective) (index : Nat) (l r : Condition Test) :
    (merge op l r).print escape index = printRun escape op index (l.run op ++ r.run op) := by
  simp only [merge, print]

theorem renderRest_trees (escape : Bool) (op : Connective) {ps : List (Condition Clause)}
    (hps : ∀ p ∈ ps, ∀ link index,
      (p.tree link).render escape index = (p.map Clause.test).printPart escape index) (index : Nat) :
    ClauseTree.renderRest escape index (trees op (some op) ps) =
      printMore escape op index (mapParts Clause.test ps) := by
  induction ps generalizing index with
  | nil => simp only [trees, ClauseTree.renderRest, mapParts, printMore]
  | cons p ps ih =>
    have hrest := ih (fun q hq => hps q (List.mem_cons_of_mem p hq))
    simp only [trees, ClauseTree.renderRest, mapParts, printMore, link_tree,
      hps p List.mem_cons_self, hrest, ClauseTree.separator]

/-- A clause tree prints as its condition does. -/
theorem render_tree (escape : Bool) {c : Condition Clause} (hc : c.IsFlat)
    (link : Option Connective) (index : Nat) :
    (c.tree link).render escape index = (c.map Clause.test).printPart escape index := by
  induction hc generalizing link index with
  | test a => simp only [tree, ClauseTree.render, Clause.render_eq_print, map, printPart]
  | @joined op parts two_le _ _ ih =>
    -- with two parts at least, the group is neither empty nor printed without parentheses
    obtain ⟨p, p', ps, rfl⟩ := exists_two_parts two_le
    have hrest := renderRest_trees escape op (fun q hq => ih q (List.mem_cons_of_mem p hq))
    simp only [trees, mapParts] at hrest
    simp only [tree, trees, ClauseTree.render, map, printPart, mapParts, printRun,
      ih p List.mem_cons_self, hrest, Query.append_assoc]

theorem toQuery_tree (escape : Bool) {c : Condition Clause} (hc : c.IsFlat) :
    (c.tree none).toQuery escape = (c.map Clause.test).print escape 0 := by
  cases hc with
  | test a => simp only [tree, ClauseTree.toQuery, Clause.render_eq_print, map, print]
  | @joined op parts _ _ parts_flat =>
    cases parts with
    | nil => simp only [tree, trees, ClauseTree.toQuery, ClauseTree.renderChildren, map, print,
        mapParts, printRun]
    | cons p ps =>
      have hrender (q) (hq : q ∈ p :: ps) := render_tree escape (parts_flat q hq)
      have hrest := renderRest_trees escape op
        (fun q hq => hrender q (List.mem_cons_of_mem p hq))
      simp only [tree, trees, ClauseTree.toQuery, ClauseTree.renderChildren, map, print, mapParts,
        printRun, hrender p List.mem_cons_self, hrest, Nat.zero_add]

end Condition

namespace Expr

theorem Flattens.readable {escape : Bool} {e : Expr} {c : Condition Clause}
    (h : e.Flattens escape c) : ∀ t ∈ (c.map Clause.test).tests, t.Readable := by
  intro t ht
  rw [Condition.tests_map] at ht
  obtain ⟨a, ha, rfl⟩ := List.mem_map.1 ht
  exact (h.sound a ha).readable_test

/-- What a predicate compiles to is its flat condition as text. -/
theorem compile_eq_ok {compiler : Compiler} {e : Expr} {q : Query}
    (h : compiler.compile e = .ok q) :
    ∃ c, e.Flattens compiler.options.escapeWildcards c ∧
      q = (c.map Clause.test).print compiler.options.escapeWildcards 0 := by
  obtain ⟨t, ht, h⟩ := bind_eq_ok_iff.1 h
  obtain ⟨t', ht', hv⟩ := bind_eq_ok_iff.1 ht
  obtain ⟨-, -, hv⟩ := bind_eq_ok_iff.1 hv
  obtain rfl := Except.ok.inj hv
  obtain rfl := Except.ok.inj h
  rw [tree_eq_map] at ht'
  obtain ⟨c, hc, rfl⟩ := map_eq_ok_iff.1 ht'
  have hflat := flattens_of_condition hc
  exact ⟨c, hflat, Condition.toQuery_tree _ hflat.isFlat⟩

end Expr
end SqlFilter
