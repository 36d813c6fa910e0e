import SqlFilter.Proofs.Condition.Grouped
import SqlFilter.Proofs.Meaning
import SqlFilter.Proofs.Statement.Closed
/-! Rows whose field is among some values, narrowed by a predicate. The text of the predicate follows
the membership test after `AND`, and only alternatives have to be put in parentheses for it to be read
as the other side of the conjunction. -/
namespace SqlFilter

namespace Reader
variable (ps : List Parameter)

/-- The condition that a test and the text after it say, where the test has been read already. -/
def readAfter? (test : Test) (more : String) : Option (Condition Test) := do
  let r ← run ps ⟨.connective, Level.start.put (.test test), []⟩ (tokens more.toList)
  r.result?

/-- After any operand, further conjuncts are read into the same run. -/
theorem run_conjuncts {texts : List String} {cs : List (Condition Test)} (hne : cs ≠ [])
    (h : List.Forall₂ (fun text c => Reads ps text.toList c) texts cs) {place : Place}
    (hplace : place.IsAfterOperand) (c : Condition Test) :
    ((run ps ⟨place, Level.start.put c, []⟩
      (tokens (" AND " ++ " AND ".intercalate texts).toList)).bind result?) =
        some (Level.unite .and (c :: cs)) := by
  obtain ⟨d, ds, rfl⟩ := List.exists_cons_of_ne_nil hne
  obtain ⟨s, texts', -, -, rfl⟩ := List.forall₂_cons_right_iff.1 h
  obtain ⟨place', hplace', hrun⟩ :=
    run_intercalate ps .and h ((Level.start.put c).go .and) [] stopsName_nil
  have hand : " AND " = " " ++ Connective.and.token ++ " " := rfl
  rw [List.append_nil, tokens_nil, run_nil] at hrun
  rw [String.toList_append, hand, run_connective ps hplace, hrun, ← Level.condition_extend]
  rcases hplace' with rfl | rfl <;> rfl

/-- What can be read as an operand, and then conjuncts, is read as a conjunction. -/
theorem readCondition?_conjuncts {text : String} {c : Condition Test}
    (hread : Reads ps text.toList c) {texts : List String} {cs : List (Condition Test)}
    (hne : cs ≠ []) (h : List.Forall₂ (fun text c => Reads ps text.toList c) texts cs) :
    readCondition? (text ++ (" AND " ++ " AND ".intercalate texts)) ps =
      some (Level.unite .and (c :: cs)) := by
  have hstop : StopsName (" AND " ++ " AND ".intercalate texts).toList := by
    rw [String.toList_append]
    exact stopsName_cons (by decide) _
  obtain ⟨place, hplace, hrun⟩ := hread .start [] _ hstop
  rw [readCondition?, String.toList_append, hrun]
  exact run_conjuncts ps hne h hplace c

end Reader

namespace Condition

/-- Alternatives stand at the top level of the tree of a condition just if they do in the condition. -/
theorem hasTopLevelOr_tree {c : Condition Clause} (hc : c.IsFlat) :
    (c.tree none).hasTopLevelOr = true ↔ c.connective? = some .or := by
  cases hc with
  | test a => simp [tree, ClauseTree.hasTopLevelOr, connective?]
  | @joined op parts two_le _ _ =>
    obtain ⟨p, p', rest, rfl⟩ := exists_two_parts two_le
    -- the first part stands after nothing, and all others after the connective of the run
    have hlinks : ∀ t ∈ trees op (some op) (p' :: rest), t.link = some op :=
      fun t ht => link_of_mem_trees ht
    have hsecond : p'.tree (some op) ∈ trees op (some op) (p' :: rest) := by
      rw [trees]
      exact List.mem_cons_self
    have hchildren : (tree none (.joined op (p :: p' :: rest))).hasTopLevelOr = true ↔
        ∃ t ∈ trees op (some op) (p' :: rest), t.link = some .or := by
      rw [tree, ClauseTree.hasTopLevelOr, trees, List.any_cons, link_tree]
      simp
    rw [hchildren, connective?, Option.some.injEq]
    constructor
    · rintro ⟨t, ht, hlink⟩
      rw [hlinks t ht] at hlink
      exact Option.some.inj hlink
    · rintro rfl
      exact ⟨_, hsecond, hlinks _ hsecond⟩

/-- A condition as the last conjunct of a text. -/
def conjunctText (escape : Bool) (c : Condition Test) : String :=
  let text := (c.print escape 0).sql
  if c.connective? = some .or then "(" ++ text ++ ")" else text

/-- As a conjunct, a condition has the texts of its own conjuncts. -/
theorem exists_texts_conjunctText (ps : List Parameter) (escape : Bool) {c : Condition Test}
    (hc : c.IsFlat) (hread : ∀ t ∈ c.tests, t.Readable) (hbound : (c.print escape 0).BoundIn ps) :
    ∃ texts, c.conjunctText escape = " AND ".intercalate texts ∧
      List.Forall₂ (fun text c => Reader.Reads ps text.toList c) texts (c.run .and) := by
  cases hc with
  | test t =>
    have ht := Reader.reads_test ps escape 0 (hread t (by simp [tests])) hbound
    refine ⟨[(t.print escape 0).sql], ?_, .cons ht .nil⟩
    rw [String.intercalate_singleton]
    rfl
  | @joined op parts two_le alternates parts_flat =>
    have hparts : ∀ p ∈ parts, ∀ index, (p.printPart escape index).BoundIn ps →
        Reader.Reads ps (p.printPart escape index).sql.toList p := by
      exact fun p hp => reads_printPart ps escape (parts_flat p hp)
        (fun t ht => hread t (mem_testsOf hp ht))
    cases op with
    | and => exact exists_texts_printRun ps escape .and hparts hbound
    | or =>
      -- alternatives are one conjunct, which stands in parentheses as a part of a run would
      have hbound' : ((joined .or parts).printPart escape 0).BoundIn ps := by
        intro q hq
        refine hbound q ?_
        simpa [printPart, print] using hq
      have hwhole := reads_printPart ps escape (.joined two_le alternates parts_flat) hread 0 hbound'
      refine ⟨[((joined .or parts).printPart escape 0).sql], ?_, .cons hwhole .nil⟩
      rw [String.intercalate_singleton]
      simp [conjunctText, connective?, print, printPart]

theorem unite_run_eq_merge {c : Condition Test} (hc : c.IsFlat) (t : Test) :
    Level.unite .and (.test t :: c.run .and) = merge .and (.test t) c := by
  obtain ⟨d, ds, hrun⟩ := List.exists_cons_of_ne_nil (run_ne_nil .and hc)
  rw [merge, hrun]
  rfl

end Condition

namespace Expr

/-- The truth of a predicate whose clauses are as true as `w` says, each as it stands in the text. -/
def clauseTruth? (w : Test → Truth) (escape : Bool) : Expr → Option Truth
  | .binary .and left right => do
    return (← left.clauseTruth? w escape).and (← right.clauseTruth? w escape)
  | .binary .or left right => do
    return (← left.clauseTruth? w escape).or (← right.clauseTruth? w escape)
  | e => (clause escape e).toOption.map fun a => w a.test

variable {escape : Bool} {e : Expr} {c : Condition Clause}

theorem clauseTruth?_of_alone (w : Test → Truth) (alone : e.connective? = none) :
    e.clauseTruth? w escape = (clause escape e).toOption.map fun a => w a.test := by
  cases e with
  | binary op left right =>
    cases op with
    | and | or => simp [connective?, Connective.ofBinary?] at alone
    | _ => simp only [clauseTruth?]
  | _ => simp only [clauseTruth?]

theorem Flattens.clauseTruth?_eq (w : Test → Truth) (h : e.Flattens escape c) :
    e.clauseTruth? w escape = some ((c.map Clause.test).truth w) := by
  induction h with
  | test alone ha =>
    rw [clauseTruth?_of_alone w alone, toOption_ok ha]
    rfl
  | @joined op connective left right l r hop hl hr ihl ihr =>
    rw [Condition.map_merge, Condition.truth_merge]
    cases op <;> simp only [Connective.ofBinary?, Option.some.injEq, reduceCtorEq] at hop <;>
      subst hop <;> simp [clauseTruth?, ihl, ihr, Connective.apply]

end Expr

namespace Table
variable {t : Table} {s : Statement}

/-- The condition of a predicate is its flat condition as text, and as a conjunct it is printed so
that its own conjuncts can be read. -/
theorem flattens_of_condition {e : Expr} {c : Condition} (h : t.condition e = .ok c) :
    ∃ flat, e.Flattens t.options.escapeWildcards flat ∧
      c.query = (flat.map Clause.test).print t.options.escapeWildcards 0 ∧
      c.conjunct = (flat.map Clause.test).conjunctText t.options.escapeWildcards := by
  obtain ⟨tree, htree, rfl⟩ := condition_eq_ok h
  obtain ⟨tree', htree', hvalid⟩ := bind_eq_ok_iff.1 htree
  obtain ⟨-, -, hvalid⟩ := bind_eq_ok_iff.1 hvalid
  obtain rfl := Except.ok.inj hvalid
  rw [Expr.tree_eq_map] at htree'
  obtain ⟨flat, hflat, rfl⟩ := map_eq_ok_iff.1 htree'
  have hflattens := Expr.flattens_of_condition hflat
  have hquery := Condition.toQuery_tree t.options.escapeWildcards hflattens.isFlat
  have hor := SqlFilter.Condition.hasTopLevelOr_tree hflattens.isFlat
  refine ⟨flat, hflattens, hquery, ?_⟩
  simp only [Condition.conjunct, hor, hquery, SqlFilter.Condition.conjunctText,
    SqlFilter.Condition.connective?_map]

/-- The test of a field for some values, as a clause and as its text. -/
def membership (field : String) (values : List Value) : Test :=
  .against field .isIn (.list values)

def membershipText (field : String) : String :=
  field ++ " IN @" ++ (field ++ "_in")

/-- A selection of the rows whose field is among the values and that meet the predicate, if there is
one: `more` stands after the membership test, and both together say `c`. -/
structure NarrowedBy (t : Table) (field : String) (values : List Value) (e : Option Expr)
    (s : Statement) (more : String) (c : SqlFilter.Condition Test) : Prop where
  said : ∃ names, t.Lists names ∧
    s.sql = selectFrom t.name names ++ " WHERE " ++ (membershipText field ++ more)
  bound : parameterValue? s.parameters (field ++ "_in") = some (.list values)
  /-- Whatever the field is called, the rest is read after its test. -/
  read_after : Reader.readAfter? s.parameters (membership field values) more = some c
  read : isIdentifier field = true →
    readCondition? (membershipText field ++ more) s.parameters = some c
  alone : e = none → more = ""
  parenthesised : ∀ p ∈ e, ∃ q, t.compiler.compile p = .ok q ∧
    more = " AND " ++ (if p.connective? = some .or then "(" ++ q.sql ++ ")" else q.sql)
  truth (w : Test → Truth) : ∃ u,
    (e.elim (some .holds) fun p => p.clauseTruth? w t.options.escapeWildcards) = some u ∧
      c.truth w = (w (membership field values)).and u
  meaning (v : Test → Truth) : ∃ u,
    (e.elim (some .holds) fun p => p.truth? v t.options.escapeWildcards) = some u ∧
      c.truth (Test.truth v) = (v (membership field values)).and u

theorem reads_membership {ps : List Parameter} {field : String} {values : List Value}
    (hbound : parameterValue? ps (field ++ "_in") = some (.list values))
    (hfield : isIdentifier field = true) :
    Reader.Reads ps (membershipText field).toList (.test (membership field values)) := by
  have hname : isIdentifier (field ++ "_in") = true :=
    isIdentifier_append hfield (List.all_eq_true.1 (by decide))
  have hsuits : Operator.isIn.Suits (.list values) := ⟨values, rfl⟩
  have htext : membershipText field =
      field ++ (" " ++ Operator.isIn.token ++ " @") ++ (field ++ "_in") := rfl
  rw [htext]
  exact Reader.reads_compared_plain ps hfield hname hsuits hbound

theorem narrowedBy_alone (field : String) (values : List Value) {names : List String}
    (hnames : t.Lists names) :
    t.NarrowedBy field values none
      ⟨selectFrom t.name names ++ " WHERE " ++ membershipText field,
        [⟨field ++ "_in", .list values⟩]⟩ "" (.test (membership field values)) := by
  have hbound : parameterValue? [⟨field ++ "_in", .list values⟩] (field ++ "_in") =
      some (.list values) := by simp [parameterValue?]
  refine ⟨⟨names, hnames, by simp⟩, hbound, ?_, ?_, fun _ => rfl, by simp, ?_, ?_⟩
  · have htokens : tokens "".toList = [] := tokens_nil
    rw [Reader.readAfter?, htokens]
    rfl
  · intro hfield
    have hread : List.Forall₂ (fun text c => Reader.Reads _ text.toList c) [membershipText field]
        [.test (membership field values)] := .cons (reads_membership hbound hfield) .nil
    have hcondition := Reader.readCondition?_intercalate _ .and (List.cons_ne_nil _ _) hread
    rw [String.intercalate_singleton] at hcondition
    rw [String.append_empty]
    exact hcondition
  · intro w
    exact ⟨.holds, rfl, (Connective.apply_unit .and _).symm⟩
  · intro v
    exact ⟨.holds, rfl, (Connective.apply_unit .and _).symm⟩

theorem narrowedBy_condition (field : String) (values : List Value) {names : List String}
    (hnames : t.Lists names) {e : Expr} {c : Condition} (hc : t.condition e = .ok c) :
    ∃ flat, t.NarrowedBy field values (some e)
      ⟨selectFrom t.name names ++ " WHERE " ++ membershipText field ++ " AND " ++ c.conjunct,
        ⟨field ++ "_in", .list values⟩ :: c.query.parameters⟩ (" AND " ++ c.conjunct) flat := by
  obtain ⟨clauses, hflattens, hquery, hconjunct⟩ := flattens_of_condition hc
  let flat := clauses.map Clause.test
  let ps : List Parameter := ⟨field ++ "_in", .list values⟩ :: c.query.parameters
  have hflat : flat.IsFlat := SqlFilter.Condition.isFlat_map _ hflattens.isFlat
  have hnodup : (ps.map (·.name)).Nodup := nodup_names_beside_list hc field _
  have hmember : parameterValue? ps (field ++ "_in") = some (.list values) :=
    parameterValue?_of_mem hnodup (p := ⟨field ++ "_in", .list values⟩) List.mem_cons_self
  have hbound : (flat.print t.options.escapeWildcards 0).BoundIn ps := by
    intro q hq
    rw [← hquery] at hq
    exact parameterValue?_of_mem hnodup (List.mem_cons_of_mem _ hq)
  -- the predicate gives its own conjuncts, so the whole text is one run of `AND`
  obtain ⟨texts, htexts, hreads⟩ := SqlFilter.Condition.exists_texts_conjunctText ps
    t.options.escapeWildcards hflat hflattens.readable hbound
  rw [← hconjunct] at htexts
  have hne := SqlFilter.Condition.run_ne_nil .and hflat
  have hmerge := SqlFilter.Condition.unite_run_eq_merge hflat (membership field values)
  have htruth (w : Test → Truth) :
      (SqlFilter.Condition.merge .and (.test (membership field values)) flat).truth w =
        (w (membership field values)).and (flat.truth w) :=
    SqlFilter.Condition.truth_merge w .and _ _
  refine ⟨.merge .and (.test (membership field values)) flat, ⟨names, hnames, ?_⟩, hmember, ?_, ?_,
    by simp, ?_, ?_, ?_⟩
  · simp only [String.append_assoc]
  · rw [htexts, ← hmerge]
    exact Reader.run_conjuncts ps hne hreads (Or.inl rfl) _
  · intro hfield
    rw [htexts, ← hmerge]
    exact Reader.readCondition?_conjuncts ps (reads_membership hmember hfield) hne hreads
  · intro p hp
    obtain rfl := Option.some.inj hp
    refine ⟨c.query, compile_of_condition hc, ?_⟩
    rw [hconjunct, SqlFilter.Condition.conjunctText, ← hquery,
      SqlFilter.Condition.connective?_map, hflattens.connective?_eq]
  · intro w
    exact ⟨flat.truth w, hflattens.clauseTruth?_eq w, htruth w⟩
  · intro v
    exact ⟨flat.truth (Test.truth v), hflattens.truth?_eq, htruth _⟩

/-- A predicate only narrows a selection of rows by the values of a field. The condition of the
statement is the conjunction of the membership test with the predicate, however this is nested, and
the predicate is put in parentheses just if its outermost connective is `OR`. -/
theorem findAllIn_narrows {field : String} {values : List Value} {e : Option Expr}
    {columns : Option (List String)} (h : t.findAllIn field values e columns = .ok s) :
    ∃ more c, t.NarrowedBy field values e s more c := by
  obtain ⟨-, names, hnames, hs⟩ := findAllIn_eq_ok h
  simp only [String.append_assoc] at hs
  rcases hs with ⟨rfl, rfl⟩ | ⟨e, c, rfl, hc, rfl⟩
  · have halone := narrowedBy_alone field values hnames
    simp only [membershipText, String.append_assoc] at halone
    exact ⟨"", .test (membership field values), halone⟩
  · obtain ⟨flat, hflat⟩ := narrowedBy_condition field values hnames hc
    simp only [membershipText, String.append_assoc] at hflat
    exact ⟨" AND " ++ c.conjunct, flat, hflat⟩

theorem findAllIn_narrows_alternatives :
    let schema : Schema := ⟨"Users", [.key "Id", .plain "Name", .plain "Age"], none⟩
    let t : Table := ⟨schema, .sqlite, ⟨true, true⟩⟩
    let e : Expr := .binary .or (.binary .gt (.field "Age") (.constant (.int 3)))
      (.binary .and (.binary .eq (.field "Name") (.constant (.text "Ann"))) (.not (.field "Age")))
    let s : Statement := ⟨"SELECT Name FROM Users WHERE Id IN @Id_in AND " ++
      "(Age > @Age_p0 OR (Name = @Name_p1 AND Age = @Age_p2))",
      [⟨"Id_in", .list [.int 1, .int 2]⟩, ⟨"Age_p0", .int 3⟩, ⟨"Name_p1", .text "Ann"⟩,
        ⟨"Age_p2", .bool false⟩]⟩
    t.findAllIn "Id" [.int 1, .int 2] (some e) (some ["Name"]) = .ok s ∧
      ∃ more c, t.NarrowedBy "Id" [.int 1, .int 2] (some e) s more c := by
  intro schema t e s
  have hs : t.findAllIn "Id" [.int 1, .int 2] (some e) (some ["Name"]) = .ok s := by
    simp only [t, schema, e, s]
    rfl
  exact ⟨hs, findAllIn_narrows hs⟩

end Table
end SqlFilter
