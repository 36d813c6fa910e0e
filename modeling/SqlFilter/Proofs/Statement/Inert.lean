import SqlFilter.Proofs.Inert
import SqlFilter.Proofs.Statement.Names
/-! Nothing that is asked for can be smuggled into a statement. Its text has the names of a usable
schema, the words of its kind and a compiled predicate, and each of these is inert. -/
namespace SqlFilter

theorem IsInert.keptByNames : KeptByNames IsInert where
  identifier := IsInert.of_isIdentifier
  sign := by
    have hlevel : ∀ s ∈ ["", ".", ", ", " FROM ", "SELECT "], isLevel s = true := by decide
    exact fun s hs => .of_level (hlevel s hs)
  append := IsInert.append

namespace Table
variable {t : Table} {s : Statement}

theorem isInert_where {e : Expr} {c : Condition} (hc : t.condition e = .ok c) {opening : String}
    (hopening : IsInert opening) : IsInert (opening ++ " WHERE " ++ c.query.sql) := by
  have hwhere : IsInert " WHERE " := .of_level (by decide)
  exact (hopening.append hwhere).append (Expr.isInert_compile (compile_of_condition hc))

variable (ht : t.schema.Usable)
include ht

theorem isInert_name : IsInert t.name :=
  IsInert.keptByNames.name ht

theorem isInert_selectAll (h : t.selectAll = .ok s) : IsInert s.sql := by
  obtain ⟨names, hnames, rfl⟩ := selectAll_eq_ok h
  exact IsInert.keptByNames.selectFrom ht (isInert_name ht) hnames

theorem isInert_findAll {e : Expr} (h : t.findAll e = .ok s) : IsInert s.sql := by
  obtain ⟨names, hnames, hs⟩ := findAllFrom_eq_ok h
  obtain ⟨c, hc, rfl⟩ := selectWhere_eq_ok hs
  exact isInert_where hc (IsInert.keptByNames.selectFrom ht (isInert_name ht) hnames)

theorem isInert_findFirstByOrder {order : List String} {e : Option Expr} {descending : Bool}
    (h : t.findFirstByOrder order e descending = .ok s) : IsInert s.sql := by
  obtain ⟨horder, names, hnames, hs⟩ := findFirstByOrder_eq_ok h
  obtain ⟨opening, hopening, closing, hclosing, hfirst⟩ :=
    firstRow_selectFrom t.dialect t.name names
  have hwords : ∀ s ∈ ["SELECT ", "SELECT TOP 1 "], isLevel s = true := by decide
  have hlimits : ∀ s ∈ ["", " LIMIT 1"], isLevel s = true := by decide
  have hselect := (IsInert.of_level (hwords opening hopening)).append
    (IsInert.keptByNames.names_from ht (isInert_name ht) hnames)
  -- what is selected may be narrowed, but it is asked for in the same words
  have hrow {more : String} (hmore : IsInert more) :
      IsInert (t.dialect.firstRow (selectFrom t.name names ++ more)) := by
    rw [hfirst more]
    exact (hselect.append hmore).append (.of_level (hlimits closing hclosing))
  have hby : IsInert " ORDER BY " := .of_level (by decide)
  have hdirection : IsInert (if descending then " DESC" else "") := by
    cases descending <;> exact .of_level (by decide)
  have hending := (hby.append (IsInert.keptByNames.names ht horder)).append hdirection
  rcases hs with ⟨-, rfl⟩ | ⟨e, c, -, hc, rfl⟩
  · exact hrow hending
  · have hnarrowed := hrow ((isInert_where hc .empty).append hending)
    simpa only [String.empty_append, String.append_assoc] using hnarrowed

theorem isInert_deleteWhere {e : Expr} (h : t.deleteWhere e = .ok s) : IsInert s.sql := by
  obtain ⟨c, hc, rfl⟩ := deleteWhere_eq_ok h
  have hdelete : IsInert "DELETE FROM " := .of_level (by decide)
  exact isInert_where hc (hdelete.append (isInert_name ht))

theorem isInert_statement {kind : StatementKind} {predicate : Option Expr} {order : List String}
    {descending : Bool} (h : t.statement kind predicate order descending = .ok s) :
    IsInert s.sql := by
  rcases statement_eq_ok h with ⟨-, -, hs⟩ | ⟨-, hs⟩ | ⟨e, -, ⟨-, hs⟩ | ⟨-, hs⟩⟩
  · exact isInert_selectAll ht hs
  · exact isInert_findFirstByOrder ht hs
  · exact isInert_findAll ht hs
  · exact isInert_deleteWhere ht hs

end Table

namespace Settings

theorem table_eq_ok {settings : Settings} {entity : String} {t : Table}
    (h : settings.table entity = .ok t) : settings.schema entity = .ok t.schema := by
  obtain ⟨schema, hschema, h⟩ := bind_eq_ok_iff.1 h
  obtain rfl := Except.ok.inj h
  exact hschema

/-- Under checked settings every statement that a command gives is inert, whatever the predicate and
the order are made of, and so is everything that predicates compile to. -/
theorem sql_isInert {settings : Settings} (hsettings : settings.fault? = none) :
    (∀ entity t, settings.table entity = .ok t → ∀ kind predicate order descending s,
      t.statement kind predicate order descending = .ok s → IsInert s.sql) ∧
    ∀ (compiler : Compiler) e q, compiler.compile e = .ok q → IsInert q.sql := by
  refine ⟨?_, fun compiler e q h => Expr.isInert_compile h⟩
  intro entity t ht kind predicate order descending s hs
  exact Table.isInert_statement (usable_of_schema hsettings (table_eq_ok ht)) hs

theorem sql_isInert_first :
    let schema : Schema := ⟨"dbo.Users", [.key "Id", .plain "Name"], none⟩
    let settings : Settings := ⟨⟨true, true⟩, .postgres, NameMap.empty.insert "User" schema⟩
    let t : Table := ⟨schema, .postgres, ⟨true, true⟩⟩
    let starts : Expr := .call "StartsWith" (some (.field "Name")) [.constant (.text "'; DROP--")]
    let above : Expr := .binary .gt (.field "Id") (.constant (.int 3))
    let e : Expr := .binary .and (.binary .or starts above) (.not (.field "Id"))
    let sql := "SELECT Id, Name FROM dbo.Users WHERE (Name LIKE @Name_p0 ESCAPE '\\' " ++
      "OR Id > @Id_p1) AND Id = @Id_p2 ORDER BY Name DESC LIMIT 1"
    let ps : List Parameter :=
      [⟨"Name_p0", .text "'; DROP--%"⟩, ⟨"Id_p1", .int 3⟩, ⟨"Id_p2", .bool false⟩]
    settings.fault? = none ∧ settings.table "User" = .ok t ∧
      t.statement .first (some e) ["Name"] true = .ok ⟨sql, ps⟩ ∧ IsInert sql ∧
      Compiler.compile ⟨⟨false, false⟩, none⟩ starts =
        .ok ⟨"Name LIKE @Name_p0", [⟨"Name_p0", .text "'; DROP--%"⟩]⟩ ∧
      IsInert "Name LIKE @Name_p0" := by
  intro schema settings t starts above e sql ps
  have hsettings : settings.fault? = none := by decide
  have ht : settings.table "User" = .ok t := by rfl
  have hs : t.statement .first (some e) ["Name"] true = .ok ⟨sql, ps⟩ := by
    simp only [t, schema, e, starts, above, sql, ps]
    rfl
  have hq : Compiler.compile ⟨⟨false, false⟩, none⟩ starts =
    .ok ⟨"Name LIKE @Name_p0", [⟨"Name_p0", .text "'; DROP--%"⟩]⟩ := by rfl
  obtain ⟨hstatements, hconditions⟩ := sql_isInert hsettings
  exact ⟨hsettings, ht, hs, hstatements _ _ ht _ _ _ _ _ hs, hq, hconditions _ _ _ hq⟩

end Settings
end SqlFilter
