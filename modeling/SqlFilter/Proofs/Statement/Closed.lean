import SqlFilter.Proofs.Statement.Binding
/-! Statements about a usable schema. Whatever is asked for, no two parameters share a name, and the
text refers to every one of them once, in order. -/
namespace SqlFilter

/-- The text refers to the parameters in order, and their names are different. -/
structure Statement.Closed (s : Statement) : Prop where
  templated : s.query.IsTemplated
  names_nodup : (s.parameters.map (·.name)).Nodup

theorem numberedName_ne_in (field field' : String) (index : Nat) :
    numberedName field index ≠ field' ++ "_in" := by
  -- the one ends in a digit, the other in a letter
  intro h
  have hlast := congrArg (fun s : String => s.toList.getLast?) h
  have hdigits : (toString index).toList ≠ [] := by
    rw [Nat.toString_eq_repr, Nat.toList_repr]
    exact Nat.toDigits_ne_nil
  simp only [numberedName, String.toList_append] at hlast
  rw [List.getLast?_append_of_ne_nil _ hdigits, List.getLast?_append_of_ne_nil _ (by decide)]
    at hlast
  have hmem : 'n' ∈ (toString index).toList := List.mem_of_getLast? hlast
  exact absurd (isDigit_of_mem_toString hmem) (by decide)

namespace Table

/-- The statements of one call each. The name of another table is taken as it comes, so it has to be
one. -/
inductive Assembled (t : Table) : Statement → Prop
  | selectAll {s} (h : t.selectAll = .ok s) : Assembled t s
  | find {e s} (h : t.find e = .ok s) : Assembled t s
  | findAll {e s} (h : t.findAll e = .ok s) : Assembled t s
  | findAllFrom {table e s} (htable : isDottedIdentifier table = true)
      (h : t.findAllFrom table e = .ok s) : Assembled t s
  | findAllWithColumns {columns e s} (h : t.findAllWithColumns columns e = .ok s) : Assembled t s
  | findAllIn {field values e columns s} (h : t.findAllIn field values e columns = .ok s) :
      Assembled t s
  | findFirstByOrder {order e descending s} (h : t.findFirstByOrder order e descending = .ok s) :
      Assembled t s
  | getById {id s} (h : t.getById id = .ok s) : Assembled t s
  | insert {row s} (h : t.insert row = .ok s) : Assembled t s
  | update {row s} (h : t.update row = .ok s) : Assembled t s
  | delete {row s} (h : t.delete row = .ok s) : Assembled t s
  | deleteWhere {e s} (h : t.deleteWhere e = .ok s) : Assembled t s
  | softDelete {row s} (h : t.softDelete row = .ok s) : Assembled t s

variable {t : Table} {s : Statement}

section Condition
variable {e : Expr} {c : Condition} (hc : t.condition e = .ok c)
include hc

theorem isTemplated_condition : c.query.IsTemplated :=
  Expr.isTemplated_compile (compile_of_condition hc)

theorem exists_numbered_condition : ∃ bound, c.query.parameters = numbered 0 bound :=
  Expr.parameters_compile (compile_of_condition hc)

theorem nodup_names_condition : (c.query.parameters.map (·.name)).Nodup := by
  obtain ⟨bound, hbound⟩ := exists_numbered_condition hc
  rw [hbound]
  exact nodup_names_numbered 0 bound

/-- No parameter of a condition has the name of a list beside it. -/
theorem nodup_names_beside_list (field : String) (v : Value) :
    (((⟨field ++ "_in", v⟩ : Parameter) :: c.query.parameters).map (·.name)).Nodup := by
  refine List.nodup_cons.2 ⟨?_, nodup_names_condition hc⟩
  obtain ⟨bound, hbound⟩ := exists_numbered_condition hc
  rw [hbound]
  intro hmem
  obtain ⟨p, hp, hname⟩ := List.mem_map.1 hmem
  obtain ⟨b, -, rfl⟩ := List.mem_map.1 hp
  exact numberedName_ne_in _ _ _ hname

theorem isTemplated_conjunct : (⟨c.conjunct, c.query.parameters⟩ : Query).IsTemplated := by
  have hquery := isTemplated_condition hc
  unfold Condition.conjunct
  split
  · have hopening : IsPlain "(" := by decide
    have hclosing : IsSeparator ")" := by decide
    exact (hquery.after hopening).before hclosing
  · exact hquery

theorem closed_where {opening : String} (hopening : IsPlain opening) :
    Statement.Closed ⟨opening ++ " WHERE " ++ c.query.sql, c.query.parameters⟩ := by
  have hwhere : IsPlain " WHERE " := by decide
  exact ⟨(isTemplated_condition hc).after (hopening.append hwhere), nodup_names_condition hc⟩

end Condition

theorem closed_of_isPlain {sql : String} (hsql : IsPlain sql) : Statement.Closed ⟨sql, []⟩ :=
  ⟨Query.isTemplated_ofText hsql.no_at hsql.no_quote, List.nodup_nil⟩

/-- The columns of a row, each in a text with its parameter. -/
theorem RowBinds.isTemplated {written : Except String Json} {columns : List Column}
    {ps : List Parameter} (hps : t.RowBinds written columns ps) {separator : String}
    (hseparator : IsSeparator separator) {text : String → String}
    (htext : ∀ q ∈ ps, (⟨text q.name, [q]⟩ : Query).IsTemplated) :
    (⟨separator.intercalate ((columns.map (·.name)).map text), ps⟩ : Query).IsTemplated := by
  rw [← hps.names_eq, List.map_map]
  exact Query.isTemplated_intercalate hseparator htext

section Usable
variable (ht : t.schema.Usable)
include ht

theorem isPlain_name : IsPlain t.name :=
  IsPlain.keptByNames.name ht

theorem closed_selectAll (h : t.selectAll = .ok s) : s.Closed := by
  obtain ⟨names, hnames, rfl⟩ := selectAll_eq_ok h
  exact closed_of_isPlain (IsPlain.keptByNames.selectFrom ht (isPlain_name ht) hnames)

theorem closed_selectWhere {table : String} (htable : IsPlain table) {names : List String}
    (hnames : t.Lists names) {e : Expr} (h : t.selectWhere table names e = .ok s) : s.Closed := by
  obtain ⟨c, hc, rfl⟩ := selectWhere_eq_ok h
  exact closed_where hc (IsPlain.keptByNames.selectFrom ht htable hnames)

theorem closed_findAllFrom {table : String} (htable : IsPlain table) {e : Expr}
    (h : t.findAllFrom table e = .ok s) : s.Closed := by
  obtain ⟨names, hnames, hs⟩ := findAllFrom_eq_ok h
  exact closed_selectWhere ht htable hnames hs

theorem closed_findAllIn {field : String} {values : List Value} {e : Option Expr}
    {columns : Option (List String)} (h : t.findAllIn field values e columns = .ok s) :
    s.Closed := by
  obtain ⟨hfield, names, hnames, hs⟩ := findAllIn_eq_ok h
  have hident := ht.isIdentifier_of_hasColumn hfield
  let p : Parameter := ⟨field ++ "_in", .list values⟩
  have hp : isIdentifier p.name = true :=
    isIdentifier_append hident (List.all_eq_true.1 (by decide))
  -- the membership test is there with and without a predicate
  have hmember : (⟨selectFrom t.name names ++ " WHERE " ++ field ++ " IN @" ++ p.name, [p]⟩ :
      Query).IsTemplated := by
    have hwhere : IsPlain " WHERE " := by decide
    have hin : IsPlain " IN " := by decide
    have hat : " IN @" = " IN " ++ "@" := rfl
    have hselect := IsPlain.keptByNames.selectFrom ht (isPlain_name ht) hnames
    have hopening := ((hselect.append hwhere).append (isPlain_of_isIdentifier hident)).append hin
    have hreference := (Query.isTemplated_reference hp).after hopening
    rw [hat]
    simpa only [String.append_assoc] using hreference
  rcases hs with ⟨rfl, rfl⟩ | ⟨e, c, rfl, hc, rfl⟩
  · exact ⟨hmember, List.nodup_singleton _⟩
  · have hand : IsSeparator " AND " := by decide
    exact ⟨hmember.join (isTemplated_conjunct hc) hand, nodup_names_beside_list hc field _⟩

theorem closed_findFirstByOrder {order : List String} {e : Option Expr} {descending : Bool}
    (h : t.findFirstByOrder order e descending = .ok s) : s.Closed := by
  obtain ⟨horder, names, hnames, hs⟩ := findFirstByOrder_eq_ok h
  obtain ⟨select, hselect, closing, hclosing, hfirst⟩ := firstRow_selectFrom t.dialect t.name names
  have hselecting : ∀ s ∈ ["SELECT ", "SELECT TOP 1 "], IsPlain s := by decide
  have hclosed : ∀ s ∈ ["", " LIMIT 1"], IsPlain s := by decide
  have hopening := (hselecting select hselect).append
    (IsPlain.keptByNames.names_from ht (isPlain_name ht) hnames)
  have hwhere : IsPlain " WHERE " := by decide
  have hby : IsSeparator " ORDER BY " := by decide
  have hdirection : IsPlain (if descending then " DESC" else "") := by
    cases descending <;> decide
  have hending := ((hby.append (IsPlain.keptByNames.names ht horder)).append hdirection).append
    (hclosed closing hclosing)
  rcases hs with ⟨-, rfl⟩ | ⟨e, c, -, hc, rfl⟩
  · have hplain := hopening.append hending.toIsPlain
    rw [← String.append_assoc, ← hfirst] at hplain
    exact closed_of_isPlain hplain
  · -- the ending goes on with no name, so the last reference ends before it
    have hquery := ((isTemplated_condition hc).after (hopening.append hwhere)).before hending
    refine ⟨?_, nodup_names_condition hc⟩
    simp only [String.append_assoc] at hfirst hquery ⊢
    rw [Statement.query, hfirst]
    simpa only [String.append_assoc] using hquery

theorem closed_getById {id : Value} (h : t.getById id = .ok s) : s.Closed := by
  obtain ⟨key, names, hkey, hnames, rfl⟩ := getById_eq_ok h
  have hmem : key ∈ t.schema.keyColumns := by
    rw [hkey]
    exact List.mem_singleton_self key
  have hident : isIdentifier key.name = true := (ht.filter_columns _).1 key hmem
  have hwhere : IsPlain " WHERE " := by decide
  have hopening := (IsPlain.keptByNames.selectFrom ht (isPlain_name ht) hnames).append hwhere
  have hmatched := Query.isTemplated_assignment (p := ⟨key.name, id⟩) hident
  exact ⟨hmatched.after hopening, List.nodup_singleton _⟩

section Row
variable {written : Except String Json} {p : Column → Bool} {ps : List Parameter}
variable (hps : t.RowBinds written (t.schema.columns.filter p) ps)
include hps

/-- The parameters of a row have the names of its columns, which are different identifiers. -/
theorem RowBinds.names :
    (∀ q ∈ ps, isIdentifier q.name = true) ∧ (ps.map (·.name)).Nodup := by
  obtain ⟨hident, hnodup⟩ := ht.filter_columns p
  refine ⟨?_, by rwa [hps.names_eq]⟩
  intro q hq
  have hname : q.name ∈ ps.map (·.name) := List.mem_map_of_mem hq
  rw [hps.names_eq] at hname
  obtain ⟨c, hc, hcq⟩ := List.mem_map.1 hname
  rw [← hcq]
  exact hident c hc

theorem RowBinds.isTemplated_assignments {separator : String}
    (hseparator : IsSeparator separator) :
    (⟨separator.intercalate (assignments (t.schema.columns.filter p)), ps⟩ :
      Query).IsTemplated := by
  have hassigned := hps.isTemplated hseparator
    (fun q hq => Query.isTemplated_assignment ((hps.names ht).1 q hq))
  rwa [List.map_map] at hassigned

theorem closed_matched {opening : String} (hopening : IsPlain opening) :
    Statement.Closed
      ⟨opening ++ " AND ".intercalate (assignments (t.schema.columns.filter p)), ps⟩ := by
  have hand : IsSeparator " AND " := by decide
  exact ⟨(hps.isTemplated_assignments ht hand).after hopening, (hps.names ht).2⟩

end Row

variable {written : Except String Json}

theorem isPlain_insert_opening :
    IsPlain ("INSERT INTO " ++ t.name ++ " (" ++
      ", ".intercalate (t.schema.insertColumns.map (·.name)) ++ ") VALUES (") := by
  have hinto : IsPlain "INSERT INTO " := by decide
  have hparen : IsPlain " (" := by decide
  have hvalues : IsPlain ") VALUES (" := by decide
  have hcomma : IsPlain ", " := by decide
  have hcolumns : IsPlain (", ".intercalate (t.schema.insertColumns.map (·.name))) := by
    refine IsPlain.keptByNames.intercalate hcomma ?_
    intro name hname
    obtain ⟨c, hc, rfl⟩ := List.mem_map.1 hname
    exact isPlain_of_isIdentifier ((ht.filter_columns _).1 c hc)
  exact (((hinto.append (isPlain_name ht)).append hparen).append hcolumns).append hvalues

theorem closed_insert (h : t.insert written = .ok s) : s.Closed := by
  obtain ⟨ps, hps, rfl⟩ := insert_eq_ok h
  obtain ⟨hident, hnodup⟩ := hps.names ht
  have hcomma : IsSeparator ", " := by decide
  have hclosing : IsSeparator ")" := by decide
  have hreferences := hps.isTemplated hcomma
    (fun q hq => Query.isTemplated_reference (hident q hq))
  exact ⟨(hreferences.after (isPlain_insert_opening ht)).before hclosing, hnodup⟩

theorem isPlain_update_opening : IsPlain ("UPDATE " ++ t.name ++ " SET ") := by
  have hupdate : IsPlain "UPDATE " := by decide
  have hsetting : IsPlain " SET " := by decide
  exact (hupdate.append (isPlain_name ht)).append hsetting

theorem closed_update (h : t.update written = .ok s) : s.Closed := by
  obtain ⟨set, matched, hset, hmatched, rfl⟩ := update_eq_ok h
  have hcomma : IsSeparator ", " := by decide
  have hwhere : IsSeparator " WHERE " := by decide
  have hand : IsSeparator " AND " := by decide
  have hfirst := (hset.isTemplated_assignments ht hcomma).after (isPlain_update_opening ht)
  refine ⟨hfirst.join (hmatched.isTemplated_assignments ht hand) hwhere, ?_⟩
  -- no column is both set and matched
  have hnames := ht.nodup_names_update
  rw [List.map_append, ← hset.names_eq, ← hmatched.names_eq, ← List.map_append] at hnames
  exact hnames

theorem closed_delete (h : t.delete written = .ok s) : s.Closed := by
  obtain ⟨ps, hps, rfl⟩ := delete_eq_ok h
  have hdelete : IsPlain "DELETE FROM " := by decide
  have hwhere : IsPlain " WHERE " := by decide
  exact closed_matched ht hps ((hdelete.append (isPlain_name ht)).append hwhere)

theorem closed_deleteWhere {e : Expr} (h : t.deleteWhere e = .ok s) : s.Closed := by
  obtain ⟨c, hc, rfl⟩ := deleteWhere_eq_ok h
  have hdelete : IsPlain "DELETE FROM " := by decide
  exact closed_where hc (hdelete.append (isPlain_name ht))

theorem closed_softDelete (h : t.softDelete written = .ok s) : s.Closed := by
  obtain ⟨flag, ps, hflag, hps, rfl⟩ := softDelete_eq_ok h
  have hwhere : IsPlain " = 1 WHERE " := by decide
  have hcolumn := isPlain_of_isIdentifier (ht.flag_identifier flag hflag)
  have hopening := (isPlain_update_opening ht).append hcolumn
  exact closed_matched ht hps (hopening.append hwhere)

theorem Assembled.closed (h : t.Assembled s) : s.Closed := by
  cases h with
  | selectAll h => exact closed_selectAll ht h
  | find h => exact closed_findAllFrom ht (isPlain_name ht) h
  | findAll h => exact closed_findAllFrom ht (isPlain_name ht) h
  | findAllFrom htable h =>
    exact closed_findAllFrom ht (IsPlain.keptByNames.of_isDottedIdentifier htable) h
  | findAllWithColumns h =>
    obtain ⟨hcolumns, hs⟩ := findAllWithColumns_eq_ok h
    exact closed_selectWhere ht (isPlain_name ht) hcolumns hs
  | findAllIn h => exact closed_findAllIn ht h
  | findFirstByOrder h => exact closed_findFirstByOrder ht h
  | getById h => exact closed_getById ht h
  | insert h => exact closed_insert ht h
  | update h => exact closed_update ht h
  | delete h => exact closed_delete ht h
  | deleteWhere h => exact closed_deleteWhere ht h
  | softDelete h => exact closed_softDelete ht h

end Usable

/-- A statement about an entity of checked settings refers to its parameters once each, in order,
and by position it binds their values in this order. -/
theorem Assembled.references_bound {settings : Settings} (hsettings : settings.fault? = none)
    {entity : String} {schema : Schema} (hschema : settings.schema entity = .ok schema)
    {d : Dialect} {options : CompileOptions} {s : Statement}
    (h : Assembled ⟨schema, d, options⟩ s) :
    (s.parameters.map (·.name)).Nodup ∧
      references s.sql.toList = s.parameters.map (·.name) ∧
      ∀ d', ∃ p, s.toPositional d' = .ok p ∧
        p.values = s.parameters.flatMap fun q => Positional.elements q.value := by
  have hclosed := h.closed (Settings.usable_of_schema hsettings hschema)
  refine ⟨hclosed.names_nodup, Statement.references_of_isTemplated hclosed.templated, ?_⟩
  intro d'
  exact (Statement.binds_of_nodup hclosed.templated hclosed.names_nodup d').values_eq

theorem Assembled.references_bound_membership :
    let schema : Schema := ⟨"dbo.Users", [.key "Id", .plain "Name"], none⟩
    let settings : Settings := ⟨⟨true, true⟩, .sqlite, NameMap.empty.insert "User" schema⟩
    let t : Table := ⟨schema, .sqlite, ⟨true, true⟩⟩
    let e : Expr := .binary .or (.binary .eq (.field "Id") (.constant (.int 3)))
      (.binary .eq (.field "Name") (.constant (.text "Ann")))
    let s : Statement := ⟨"SELECT Id, Name FROM dbo.Users WHERE Id IN @Id_in AND " ++
      "(Id = @Id_p0 OR Name = @Name_p1)",
      [⟨"Id_in", .list [.int 1, .int 2]⟩, ⟨"Id_p0", .int 3⟩, ⟨"Name_p1", .text "Ann"⟩]⟩
    settings.fault? = none ∧ settings.schema "User" = .ok schema ∧
      t.findAllIn "Id" [.int 1, .int 2] (some e) none = .ok s ∧
      (s.parameters.map (·.name)).Nodup ∧
      references s.sql.toList = ["Id_in", "Id_p0", "Name_p1"] ∧
      ∀ d, ∃ p, s.toPositional d = .ok p ∧
        p.values = [.int 1, .int 2, .int 3, .text "Ann"] := by
  intro schema settings t e s
  have hsettings : settings.fault? = none := by decide
  have hschema : settings.schema "User" = .ok schema := by decide
  have hs : t.findAllIn "Id" [.int 1, .int 2] (some e) none = .ok s := by
    simp only [t, schema, e, s]
    rfl
  exact ⟨hsettings, hschema, hs, references_bound hsettings hschema (.findAllIn hs)⟩

end Table
end SqlFilter
