import SqlFilter.Proofs.Condition.Truth
import SqlFilter.Proofs.Reading.OfPrint
import SqlFilter.Proofs.Statement.Closed
/-! Nothing is written everywhere. Every statement that changes or removes rows ends in a condition
that can be read off its text, and a row meets the condition only if it passes one of its tests. -/
namespace SqlFilter

theorem Level.tests_unite (op : Connective) (cs : List (Condition Test)) :
    (Level.unite op cs).tests = Condition.testsOf cs := by
  rcases cs with - | ⟨c, - | ⟨c', cs⟩⟩
  · rfl
  · simp [unite, Condition.testsOf]
  · rfl

section Tests
variable {ts : List Test} (hts : ts ≠ [])
include hts

theorem Level.isFlat_unite_tests (op : Connective) :
    (Level.unite op (ts.map .test)).IsFlat := by
  rcases ts with - | ⟨t, - | ⟨t', ts⟩⟩
  · exact absurd rfl hts
  · exact .test t
  · have htest : ∀ c ∈ (t :: t' :: ts).map Condition.test, ∃ u, c = .test u := by
      intro c hc
      obtain ⟨u, -, rfl⟩ := List.mem_map.1 hc
      exact ⟨u, rfl⟩
    refine .joined (by simp) ?_ ?_
    · intro c hc
      obtain ⟨u, rfl⟩ := htest c hc
      simp [Condition.connective?]
    · intro c hc
      obtain ⟨u, rfl⟩ := htest c hc
      exact .test u

theorem Level.run_unite_tests (op : Connective) :
    (Level.unite op (ts.map .test)).run op = ts.map .test := by
  rcases ts with - | ⟨t, - | ⟨t', ts⟩⟩
  · exact absurd rfl hts
  · rfl
  · simp [unite, Condition.run]

end Tests

theorem readCondition?_empty (ps : List Parameter) : readCondition? "" ps = none := by
  have htokens : tokens "".toList = [] := tokens_nil
  rw [readCondition?, htokens]
  rfl

/-- The test of a column for the value of its parameter. -/
def Parameter.equation (p : Parameter) : Test := .against p.name .eq p.value

theorem readCondition?_assignments {ps all : List Parameter} (hne : ps ≠ [])
    (hident : ∀ p ∈ ps, isIdentifier p.name = true)
    (hbound : ∀ p ∈ ps, parameterValue? all p.name = some p.value) :
    readCondition? (" AND ".intercalate (ps.map fun p => Table.assignment p.name)) all =
      some (Level.unite .and ((ps.map Parameter.equation).map .test)) := by
  have hread : ∀ p ∈ ps,
      Reader.Reads all (Table.assignment p.name).toList (.test p.equation) := by
    intro p hp
    have hname := hident p hp
    -- the value plays no part in the text, so the operator only has to suit some value
    have hsuits : Operator.eq.Suits .null := rfl
    have htext : Table.assignment p.name = p.name ++ (" " ++ Operator.eq.token ++ " @") ++ p.name :=
      rfl
    rw [htext]
    exact Reader.reads_compared_plain all hname hname hsuits (hbound p hp)
  refine Reader.readCondition?_intercalate all .and (by simpa using hne) ?_
  rw [List.map_map, List.forall₂_map_left_iff, List.forall₂_map_right_iff, List.forall₂_same]
  exact hread

namespace Table

/-- The statements that change or remove rows of the table. -/
inductive Writes (t : Table) : Statement → Prop
  | update {row s} (h : t.update row = .ok s) : Writes t s
  | updateColumns {values e s} (h : t.updateColumns values e = .ok s) : Writes t s
  | delete {row s} (h : t.delete row = .ok s) : Writes t s
  | deleteWhere {e s} (h : t.deleteWhere e = .ok s) : Writes t s
  | softDelete {row s} (h : t.softDelete row = .ok s) : Writes t s
  | command {predicate order descending s}
      (h : t.statement .delete predicate order descending = .ok s) : Writes t s

/-- What a write says before its condition: which rows go, or what is assigned to columns. -/
inductive Target (t : Table) : String → Prop
  | delete : Target t ("DELETE FROM " ++ t.name)
  | update {assigned : List String} (hne : assigned ≠ []) :
      Target t ("UPDATE " ++ t.name ++ " SET " ++ ", ".intercalate assigned)

/-- A write that reaches the rows of a condition, which stands at the end of its text. There are
tests of fields in it, and where none of them holds the condition does not. -/
structure FilteredBy (t : Table) (s : Statement) (c : SqlFilter.Condition Test) : Prop where
  said : ∃ target text ps, t.Target target ∧ s.sql = target ++ " WHERE " ++ text ∧ text ≠ "" ∧
    ps <:+ s.parameters ∧ readCondition? text ps = some c
  tests_ne_nil : c.tests ≠ []
  field_identifier : ∀ test ∈ c.tests, isIdentifier test.field = true
  restricts : ∀ v : Test → Truth, (∀ test ∈ c.tests, v test ≠ .holds) → c.truth v ≠ .holds

variable {t : Table} {s : Statement}

theorem filteredBy_of_isFlat {c : SqlFilter.Condition Test} (hc : c.IsFlat)
    (hfields : ∀ test ∈ c.tests, isIdentifier test.field = true) {target text : String}
    {ps : List Parameter} (htarget : t.Target target) (hsql : s.sql = target ++ " WHERE " ++ text)
    (hps : ps <:+ s.parameters) (hread : readCondition? text ps = some c) : t.FilteredBy s c := by
  -- the condition was read off the text, and nothing can be read off an empty one
  have hne : text ≠ "" := by
    rintro rfl
    simp [readCondition?_empty] at hread
  exact ⟨⟨target, text, ps, htarget, hsql, hne, hps, hread⟩, SqlFilter.Condition.tests_ne_nil hc,
    hfields, fun v hv => SqlFilter.Condition.truth_ne_holds v hc hv⟩

theorem filteredBy_condition {e : Expr} {c : Condition} (hc : t.condition e = .ok c)
    {target : String} (htarget : t.Target target)
    (hsql : s.sql = target ++ " WHERE " ++ c.query.sql)
    (hps : c.query.parameters <:+ s.parameters) : ∃ c, t.FilteredBy s c := by
  obtain ⟨flat, hflat, hquery⟩ := Expr.compile_eq_ok (compile_of_condition hc)
  have hread := hflat.condition?_print
  rw [← hquery] at hread
  have hfields : ∀ test ∈ (flat.map Clause.test).tests, isIdentifier test.field = true :=
    fun test htest => (hflat.readable test htest).isIdentifier_field
  exact ⟨_, filteredBy_of_isFlat (SqlFilter.Condition.isFlat_map _ hflat.isFlat) hfields htarget
    hsql hps hread⟩

/-- A row is found by its values in some columns, each of them tested. -/
def Matches (t : Table) (written : Except String Json) (columns : List Column) (s : Statement) :
    Prop :=
  ∃ c ps, t.FilteredBy s c ∧ t.RowBinds written columns ps ∧
    c.run .and = (ps.map Parameter.equation).map .test

theorem Matches.filteredBy {written : Except String Json} {columns : List Column}
    (h : t.Matches written columns s) : ∃ c, t.FilteredBy s c := by
  obtain ⟨c, -, hc, -⟩ := h
  exact ⟨c, hc⟩

theorem writes_deleteWhere {e : Expr} (h : t.deleteWhere e = .ok s) : ∃ c, t.FilteredBy s c := by
  obtain ⟨c, hc, rfl⟩ := deleteWhere_eq_ok h
  exact filteredBy_condition hc .delete rfl (List.suffix_refl _)

theorem writes_updateColumns {values : List (String × Value)} {e : Expr}
    (h : t.updateColumns values e = .ok s) : ∃ c, t.FilteredBy s c := by
  obtain ⟨hlists, c, hc, rfl⟩ := updateColumns_eq_ok h
  have hne : (values.map fun v => assignment v.1) ≠ [] := by
    simpa using hlists.ne_nil
  exact filteredBy_condition hc (.update hne) rfl (List.suffix_append _ _)

section Row
variable {written : Except String Json}

/-- A write whose condition has an assignment for each of some columns, bound to the values of a row. -/
def FindsRow (t : Table) (written : Except String Json) (columns : List Column) (s : Statement) :
    Prop :=
  ∃ target ps, t.Target target ∧ t.RowBinds written columns ps ∧ ps <:+ s.parameters ∧
    s.sql = target ++ " WHERE " ++ " AND ".intercalate (assignments columns)

theorem findsRow_update (h : t.update written = .ok s) :
    t.FindsRow written t.schema.whereColumns s := by
  obtain ⟨set, matched, hset, hmatched, rfl⟩ := update_eq_ok h
  have hne : assignments t.schema.updateColumns ≠ [] := by
    simpa [assignments] using hset.1
  exact ⟨_, matched, .update hne, hmatched, List.suffix_append _ _, rfl⟩

theorem findsRow_delete (h : t.delete written = .ok s) :
    t.FindsRow written t.schema.keyColumns s := by
  obtain ⟨ps, hps, rfl⟩ := delete_eq_ok h
  exact ⟨_, ps, .delete, hps, List.suffix_refl _, rfl⟩

theorem findsRow_softDelete (h : t.softDelete written = .ok s) :
    t.FindsRow written t.schema.whereColumns s := by
  obtain ⟨flag, ps, -, hps, rfl⟩ := softDelete_eq_ok h
  -- the mark of a removed row is all that is assigned, and it binds nothing
  have htarget : t.Target ("UPDATE " ++ t.name ++ " SET " ++ ", ".intercalate [flag ++ " = 1"]) :=
    .update (List.cons_ne_nil _ _)
  refine ⟨_, ps, htarget, hps, List.suffix_refl _, ?_⟩
  have hending : " = 1 WHERE " = " = 1" ++ " WHERE " := rfl
  simp only [String.intercalate_singleton, hending, String.append_assoc]

end Row

section Usable
variable (ht : t.schema.Usable) {written : Except String Json}
include ht

/-- The assignments of a row are read as one test for each of its parameters. -/
theorem RowBinds.readCondition? {p : Column → Bool} {ps all : List Parameter}
    (hps : t.RowBinds written (t.schema.columns.filter p) ps)
    (hbound : ∀ q ∈ ps, parameterValue? all q.name = some q.value) :
    readCondition? (" AND ".intercalate (assignments (t.schema.columns.filter p))) all =
      some (Level.unite .and ((ps.map Parameter.equation).map .test)) := by
  rw [hps.assignments_eq]
  exact readCondition?_assignments hps.ne_nil (hps.names ht).1 hbound

theorem matches_of_findsRow {p : Column → Bool}
    (h : t.FindsRow written (t.schema.columns.filter p) s) :
    t.Matches written (t.schema.columns.filter p) s := by
  obtain ⟨target, ps, htarget, hps, hsuffix, hsql⟩ := h
  obtain ⟨hident, hnodup⟩ := hps.names ht
  have hread := hps.readCondition? ht fun q hq => parameterValue?_of_mem hnodup hq
  let tests := ps.map Parameter.equation
  have htests : tests ≠ [] := by simpa [tests] using hps.ne_nil
  refine ⟨Level.unite .and (tests.map .test), ps, ?_, hps, Level.run_unite_tests htests .and⟩
  refine filteredBy_of_isFlat (Level.isFlat_unite_tests htests .and) ?_ htarget hsql hsuffix hread
  intro test htest
  rw [Level.tests_unite, SqlFilter.Condition.testsOf_eq_flatMap] at htest
  simp only [tests, List.mem_flatMap, List.mem_map] at htest
  obtain ⟨_, ⟨_, ⟨q, hq, rfl⟩, rfl⟩, htest⟩ := htest
  obtain rfl := List.mem_singleton.1 htest
  exact hident q hq

theorem matches_update (h : t.update written = .ok s) :
    t.Matches written t.schema.whereColumns s :=
  matches_of_findsRow ht (findsRow_update h)

theorem matches_delete (h : t.delete written = .ok s) :
    t.Matches written t.schema.keyColumns s :=
  matches_of_findsRow ht (findsRow_delete h)

theorem matches_softDelete (h : t.softDelete written = .ok s) :
    t.Matches written t.schema.whereColumns s :=
  matches_of_findsRow ht (findsRow_softDelete h)

theorem Writes.filteredBy (h : t.Writes s) : ∃ c, t.FilteredBy s c := by
  cases h with
  | update h => exact (matches_update ht h).filteredBy
  | updateColumns h => exact writes_updateColumns h
  | delete h => exact (matches_delete ht h).filteredBy
  | deleteWhere h => exact writes_deleteWhere h
  | softDelete h => exact (matches_softDelete ht h).filteredBy
  | command h =>
    -- of the kinds only the one with a predicate removes rows
    rcases statement_eq_ok h with ⟨hkind, -⟩ | ⟨hkind, -⟩ | ⟨e, -, ⟨hkind, -⟩ | ⟨-, hs⟩⟩
    · simp at hkind
    · simp at hkind
    · simp at hkind
    · exact writes_deleteWhere hs

end Usable

/-- Every write to the table of an entity of checked settings is filtered. By row, an update and a
soft delete test all columns that are keys or matched, and a delete tests all keys. -/
theorem write_filtered {settings : Settings} (hsettings : settings.fault? = none)
    {entity : String} {schema : Schema} (hschema : settings.schema entity = .ok schema)
    (d : Dialect) (options : CompileOptions) :
    let t : Table := ⟨schema, d, options⟩
    (∀ s, t.Writes s → ∃ c, t.FilteredBy s c) ∧
      (∀ row s, t.update row = .ok s ∨ t.softDelete row = .ok s →
        t.Matches row (schema.columns.filter fun c => c.isKey || c.inWhere) s) ∧
      ∀ row s, t.delete row = .ok s → t.Matches row (schema.columns.filter fun c => c.isKey) s := by
  intro t
  have ht : t.schema.Usable := Settings.usable_of_schema hsettings hschema
  refine ⟨fun s hs => hs.filteredBy ht, ?_, fun row s hs => matches_delete ht hs⟩
  rintro row s (hs | hs)
  · exact matches_update ht hs
  · exact matches_softDelete ht hs

theorem write_filtered_matched :
    let schema : Schema := ⟨"dbo.Users",
      [.key "Id", .plain "Name", (Column.plain "Version").whereMatched true], some "Gone"⟩
    let settings : Settings := ⟨⟨true, true⟩, .sqlite, NameMap.empty.insert "User" schema⟩
    let t : Table := ⟨schema, .sqlite, ⟨true, true⟩⟩
    let row : Except String Json :=
      .ok (.object [("Id", .int 1), ("Version", .null), ("Name", .text "Ann")])
    let update : Statement :=
      ⟨"UPDATE dbo.Users SET Name = @Name WHERE Id = @Id AND Version = @Version",
        [⟨"Name", .text "Ann"⟩, ⟨"Id", .int 1⟩, ⟨"Version", .null⟩]⟩
    let softDelete : Statement :=
      ⟨"UPDATE dbo.Users SET Gone = 1 WHERE Id = @Id AND Version = @Version",
        [⟨"Id", .int 1⟩, ⟨"Version", .null⟩]⟩
    let delete : Statement := ⟨"DELETE FROM dbo.Users WHERE Id = @Id", [⟨"Id", .int 1⟩]⟩
    let command : Statement := ⟨"DELETE FROM dbo.Users WHERE Name IS NULL", []⟩
    settings.fault? = none ∧ settings.schema "User" = .ok schema ∧
      t.update row = .ok update ∧
      t.Matches row [.key "Id", (Column.plain "Version").whereMatched true] update ∧
      t.softDelete row = .ok softDelete ∧
      t.Matches row [.key "Id", (Column.plain "Version").whereMatched true] softDelete ∧
      t.delete row = .ok delete ∧ t.Matches row [.key "Id"] delete ∧
      t.statement .delete (some (.binary .eq (.field "Name") (.constant .null))) [] false =
        .ok command ∧ ∃ c, t.FilteredBy command c := by
  intro schema settings t row update softDelete delete command
  have hsettings : settings.fault? = none := by decide
  have hschema : settings.schema "User" = .ok schema := by decide
  have hupdate : t.update row = .ok update := by rfl
  have hsoft : t.softDelete row = .ok softDelete := by rfl
  have hdelete : t.delete row = .ok delete := by rfl
  have hcommand : t.statement .delete (some (.binary .eq (.field "Name") (.constant .null))) []
    false = .ok command := by rfl
  obtain ⟨hwrites, hmatches, hkeys⟩ := write_filtered hsettings hschema .sqlite ⟨true, true⟩
  exact ⟨hsettings, hschema, hupdate, hmatches _ _ (Or.inl hupdate), hsoft,
    hmatches _ _ (Or.inr hsoft), hdelete, hkeys _ _ hdelete, hcommand,
    hwrites _ (.command hcommand)⟩

end Table
end SqlFilter
