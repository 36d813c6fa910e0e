import SqlFilter.Command.Statement
import SqlFilter.Proofs.Result
/-! What a statement of a table is made of, for each way to ask for one that succeeds. -/
namespace SqlFilter

/-- A row binds one parameter for each column, of its name and with the value of the row. -/
theorem Row.bind_eq_ok_iff {row : Row} {columns : List Column} {ps : List Parameter} :
    row.bind columns = .ok ps ↔
      List.Forall₂ (fun c p => row.value c.name = .ok p.value ∧ c.name = p.name) columns ps := by
  rw [Row.bind, mapM_eq_ok_iff]
  have hparameter (c : Column) (p : Parameter) :
      (do return ⟨c.name, ← row.value c.name⟩ : Except StatementError Parameter) = .ok p ↔
        row.value c.name = .ok p.value ∧ c.name = p.name := by
    cases row.value c.name with
    | error x => simp
    | ok v => cases p; simp [and_comm]
  simp only [hparameter]

theorem Row.names_bind {row : Row} {columns : List Column} {ps : List Parameter}
    (h : row.bind columns = .ok ps) : ps.map (·.name) = columns.map (·.name) := by
  have hnames : List.Forall₂ (· = ·) (columns.map (·.name)) (ps.map (·.name)) := by
    rw [List.forall₂_map_left_iff, List.forall₂_map_right_iff]
    exact (Row.bind_eq_ok_iff.1 h).imp fun _ _ hp => hp.2
  rw [List.forall₂_eq_eq_eq] at hnames
  exact hnames.symm

namespace Table
variable {t : Table} {s : Statement}

/-- Names that a statement can list: at least one, and all of declared columns. -/
structure Lists (t : Table) (names : List String) : Prop where
  ne_nil : names ≠ []
  declared : ∀ name ∈ names, t.schema.hasColumn name = true

theorem requireColumn_eq_ok_iff {column : String} :
    t.requireColumn column = .ok () ↔ t.schema.hasColumn column = true := by
  unfold requireColumn
  split
  · rename_i h
    simp [h]
  · rename_i h
    simp [h]

theorem checkedColumns_eq_ok {use : ColumnUse} {columns names : List String}
    (h : t.checkedColumns use columns = .ok names) : names = columns ∧ t.Lists columns := by
  unfold checkedColumns at h
  split at h
  · simp at h
  · rename_i hne
    obtain ⟨⟨⟩, hcolumns, h⟩ := bind_eq_ok_iff.1 h
    obtain rfl := Except.ok.inj h
    refine ⟨rfl, by simpa using hne, ?_⟩
    intro name hname
    exact requireColumn_eq_ok_iff.1 (forM_eq_ok_iff.1 hcolumns name hname)

theorem selectNames_eq_ok {names : List String} (h : t.selectNames = .ok names) :
    names = t.schema.selectColumns.map (·.name) ∧ t.Lists names := by
  unfold selectNames at h
  dsimp only at h
  split at h
  · simp at h
  · rename_i hne
    obtain rfl := Except.ok.inj h
    refine ⟨rfl, by simpa using hne, ?_⟩
    intro name hname
    obtain ⟨c, hc, rfl⟩ := List.mem_map.1 hname
    exact (t.schema.hasColumn_iff c.name).2 ⟨c, (List.mem_filter.1 hc).1, rfl⟩

theorem singleKey_eq_ok {key : Column} (h : t.singleKey = .ok key) :
    t.schema.keyColumns = [key] := by
  unfold singleKey at h
  split at h
  · simp at h
  · rename_i key' hkey
    obtain rfl := Except.ok.inj h
    exact hkey
  · simp at h

theorem condition_eq_ok {e : Expr} {c : Condition} (h : t.condition e = .ok c) :
    ∃ tree, t.compiler.tree e = .ok tree ∧
      c = ⟨tree.toQuery t.options.escapeWildcards, tree.hasTopLevelOr⟩ := by
  unfold condition at h
  split at h
  · simp at h
  · rename_i tree htree
    exact ⟨tree, htree, (Except.ok.inj h).symm⟩

/-- The text of a condition is that of the compiled predicate. -/
theorem compile_of_condition {e : Expr} {c : Condition} (h : t.condition e = .ok c) :
    t.compiler.compile e = .ok c.query := by
  obtain ⟨tree, htree, rfl⟩ := condition_eq_ok h
  unfold Compiler.compile
  rw [htree]
  rfl

theorem selectAll_eq_ok (h : t.selectAll = .ok s) :
    ∃ names, t.Lists names ∧ s = ⟨selectFrom t.name names, []⟩ := by
  obtain ⟨names, hnames, h⟩ := bind_eq_ok_iff.1 h
  exact ⟨names, (selectNames_eq_ok hnames).2, (Except.ok.inj h).symm⟩

theorem selectWhere_eq_ok {table : String} {columns : List String} {e : Expr}
    (h : t.selectWhere table columns e = .ok s) :
    ∃ c, t.condition e = .ok c ∧
      s = ⟨selectFrom table columns ++ " WHERE " ++ c.query.sql, c.query.parameters⟩ := by
  obtain ⟨c, hc, h⟩ := bind_eq_ok_iff.1 h
  exact ⟨c, hc, (Except.ok.inj h).symm⟩

theorem findAllFrom_eq_ok {table : String} {e : Expr} (h : t.findAllFrom table e = .ok s) :
    ∃ names, t.Lists names ∧ t.selectWhere table names e = .ok s := by
  obtain ⟨names, hnames, h⟩ := bind_eq_ok_iff.1 h
  exact ⟨names, (selectNames_eq_ok hnames).2, h⟩

theorem findAllWithColumns_eq_ok {columns : List String} {e : Expr}
    (h : t.findAllWithColumns columns e = .ok s) :
    t.Lists columns ∧ t.selectWhere t.name columns e = .ok s := by
  obtain ⟨names, hnames, hs⟩ := bind_eq_ok_iff.1 h
  obtain ⟨hcolumns, hlists⟩ := checkedColumns_eq_ok hnames
  rw [hcolumns] at hs
  exact ⟨hlists, hs⟩

/-- What follows the membership test of a statement, if a predicate narrows it. -/
def Condition.conjunct (c : Condition) : String :=
  if c.hasOr then "(" ++ c.query.sql ++ ")" else c.query.sql

theorem narrowed_eq_ok {sql : String} {p : Parameter} {e : Option Expr}
    (h : (match e with
      | none => return ⟨sql, [p]⟩
      | some e => do
        let c ← t.condition e
        return ⟨sql ++ " AND " ++ c.conjunct, p :: c.query.parameters⟩ :
        Except StatementError Statement) = .ok s) :
    (e = none ∧ s = ⟨sql, [p]⟩) ∨ ∃ e' c, e = some e' ∧ t.condition e' = .ok c ∧
      s = ⟨sql ++ " AND " ++ c.conjunct, p :: c.query.parameters⟩ := by
  cases e with
  | none => exact Or.inl ⟨rfl, (Except.ok.inj h).symm⟩
  | some e =>
    obtain ⟨c, hc, hs⟩ := bind_eq_ok_iff.1 h
    exact Or.inr ⟨e, c, rfl, hc, (Except.ok.inj hs).symm⟩

theorem findAllIn_eq_ok {field : String} {values : List Value} {e : Option Expr}
    {columns : Option (List String)} (h : t.findAllIn field values e columns = .ok s) :
    t.schema.hasColumn field = true ∧ ∃ names, t.Lists names ∧
      let sql := selectFrom t.name names ++ " WHERE " ++ field ++ " IN @" ++ (field ++ "_in")
      let p : Parameter := ⟨field ++ "_in", .list values⟩
      (e = none ∧ s = ⟨sql, [p]⟩) ∨ ∃ e' c, e = some e' ∧ t.condition e' = .ok c ∧
        s = ⟨sql ++ " AND " ++ c.conjunct, p :: c.query.parameters⟩ := by
  obtain ⟨⟨⟩, hfield, hs⟩ := bind_eq_ok_iff.1 h
  refine ⟨requireColumn_eq_ok_iff.1 hfield, ?_⟩
  cases columns with
  | none =>
    obtain ⟨names, hnames, hs⟩ := bind_eq_ok_iff.1 hs
    exact ⟨names, (selectNames_eq_ok hnames).2, narrowed_eq_ok hs⟩
  | some columns =>
    obtain ⟨names, hnames, hnarrowed⟩ := bind_eq_ok_iff.1 hs
    obtain ⟨rfl, hlists⟩ := checkedColumns_eq_ok hnames
    exact ⟨names, hlists, narrowed_eq_ok hnarrowed⟩

theorem findFirstByOrder_eq_ok {order : List String} {e : Option Expr} {descending : Bool}
    (h : t.findFirstByOrder order e descending = .ok s) :
    t.Lists order ∧ ∃ names, t.Lists names ∧
      let ending := " ORDER BY " ++ ", ".intercalate order ++ (if descending then " DESC" else "")
      (e = none ∧ s = ⟨t.dialect.firstRow (selectFrom t.name names ++ ending), []⟩) ∨
        ∃ e' c, e = some e' ∧ t.condition e' = .ok c ∧
          s = ⟨t.dialect.firstRow (selectFrom t.name names ++ " WHERE " ++ c.query.sql ++ ending),
            c.query.parameters⟩ := by
  obtain ⟨order', horder, hs⟩ := bind_eq_ok_iff.1 h
  obtain ⟨names, hnames, hs⟩ := bind_eq_ok_iff.1 hs
  obtain ⟨rfl, hlists⟩ := checkedColumns_eq_ok horder
  refine ⟨hlists, names, (selectNames_eq_ok hnames).2, ?_⟩
  cases e with
  | none => exact Or.inl ⟨rfl, by simpa [String.append_assoc] using (Except.ok.inj hs).symm⟩
  | some e =>
    obtain ⟨c, hc, hs⟩ := bind_eq_ok_iff.1 hs
    exact Or.inr ⟨e, c, rfl, hc, by simpa [String.append_assoc] using (Except.ok.inj hs).symm⟩

/-- The first row of a selection is asked for by fixed text before and after what is selected. -/
theorem firstRow_selectFrom (d : Dialect) (table : String) (names : List String) :
    ∃ opening ∈ ["SELECT ", "SELECT TOP 1 "], ∃ closing ∈ ["", " LIMIT 1"],
      ∀ more, d.firstRow (selectFrom table names ++ more) =
        opening ++ (", ".intercalate names ++ " FROM " ++ table) ++ more ++ closing := by
  let rest := ", ".intercalate names ++ " FROM " ++ table
  have hselect : selectFrom table names = "SELECT " ++ rest := by
    simp only [selectFrom, rest, String.append_assoc]
  cases d with
  | sqlite | postgres =>
    refine ⟨"SELECT ", by simp, " LIMIT 1", by simp, ?_⟩
    intro more
    rw [← hselect]
    rfl
  | sqlServer =>
    refine ⟨"SELECT TOP 1 ", by simp, "", by simp, ?_⟩
    intro more
    have hlist : (selectFrom table names ++ more).toList =
        'S' :: 'E' :: 'L' :: 'E' :: 'C' :: 'T' :: ' ' :: (rest ++ more).toList := by
      rw [hselect, String.append_assoc]
      exact String.toList_append
    simp only [Dialect.firstRow, hlist, String.ofList_toList, String.append_empty,
      String.append_assoc, rest]

theorem getById_eq_ok {id : Value} (h : t.getById id = .ok s) :
    ∃ key names, t.schema.keyColumns = [key] ∧ t.Lists names ∧
      s = ⟨selectFrom t.name names ++ " WHERE " ++ assignment key.name, [⟨key.name, id⟩]⟩ := by
  obtain ⟨key, hkey, h⟩ := bind_eq_ok_iff.1 h
  obtain ⟨names, hnames, h⟩ := bind_eq_ok_iff.1 h
  exact ⟨key, names, singleKey_eq_ok hkey, (selectNames_eq_ok hnames).2, (Except.ok.inj h).symm⟩

variable {written : Except String Json}

/-- What the written row binds for some columns, of which there is at least one. -/
def RowBinds (t : Table) (written : Except String Json) (columns : List Column)
    (ps : List Parameter) : Prop :=
  columns ≠ [] ∧ ∃ row, Row.read t.name written = .ok row ∧ row.bind columns = .ok ps

theorem RowBinds.names_eq {columns : List Column} {ps : List Parameter}
    (h : t.RowBinds written columns ps) : ps.map (·.name) = columns.map (·.name) := by
  obtain ⟨-, row, -, hps⟩ := h
  exact Row.names_bind hps

theorem RowBinds.ne_nil {columns : List Column} {ps : List Parameter}
    (h : t.RowBinds written columns ps) : ps ≠ [] := by
  rintro rfl
  exact h.1 (List.map_eq_nil_iff.1 h.names_eq.symm)

/-- The columns are assigned under the names that the parameters have. -/
theorem RowBinds.assignments_eq {columns : List Column} {ps : List Parameter}
    (h : t.RowBinds written columns ps) :
    assignments columns = ps.map fun p => assignment p.name := by
  have hmap := congrArg (List.map assignment) h.names_eq
  simp only [List.map_map] at hmap
  exact hmap.symm

theorem insert_eq_ok (h : t.insert written = .ok s) :
    let names := t.schema.insertColumns.map (·.name)
    ∃ ps, t.RowBinds written t.schema.insertColumns ps ∧
      s = ⟨"INSERT INTO " ++ t.name ++ " (" ++ ", ".intercalate names ++ ") VALUES (" ++
        ", ".intercalate (names.map ("@" ++ ·)) ++ ")", ps⟩ := by
  unfold insert at h
  dsimp only at h
  split at h
  · simp at h
  · rename_i hne
    obtain ⟨row, hrow, hs⟩ := bind_eq_ok_iff.1 h
    obtain ⟨ps, hps, hs⟩ := bind_eq_ok_iff.1 hs
    exact ⟨ps, ⟨by simpa using hne, row, hrow, hps⟩, (Except.ok.inj hs).symm⟩

theorem update_eq_ok (h : t.update written = .ok s) :
    ∃ set matched, t.RowBinds written t.schema.updateColumns set ∧
      t.RowBinds written t.schema.whereColumns matched ∧
      s = ⟨"UPDATE " ++ t.name ++ " SET " ++
        ", ".intercalate (assignments t.schema.updateColumns) ++ " WHERE " ++
        " AND ".intercalate (assignments t.schema.whereColumns), set ++ matched⟩ := by
  unfold update at h
  dsimp only at h
  split at h
  · simp at h
  · rename_i hset
    split at h
    · simp at h
    · rename_i hmatched
      obtain ⟨row, hrow, hs⟩ := bind_eq_ok_iff.1 h
      obtain ⟨set, hps, hs⟩ := bind_eq_ok_iff.1 hs
      obtain ⟨matched, hqs, hs⟩ := bind_eq_ok_iff.1 hs
      exact ⟨set, matched, ⟨by simpa using hset, row, hrow, hps⟩,
        ⟨by simpa using hmatched, row, hrow, hqs⟩, (Except.ok.inj hs).symm⟩

theorem updateColumns_eq_ok {values : List (String × Value)} {e : Expr}
    (h : t.updateColumns values e = .ok s) :
    t.Lists (values.map Prod.fst) ∧ ∃ c, t.condition e = .ok c ∧
      s = ⟨"UPDATE " ++ t.name ++ " SET " ++
        ", ".intercalate (values.map fun v => assignment v.1) ++ " WHERE " ++ c.query.sql,
        values.map (fun v => ⟨v.1, v.2⟩) ++ c.query.parameters⟩ := by
  unfold updateColumns at h
  split at h
  · simp at h
  · rename_i hne
    obtain ⟨⟨⟩, hvalues, hs⟩ := bind_eq_ok_iff.1 h
    obtain ⟨c, hc, hs⟩ := bind_eq_ok_iff.1 hs
    refine ⟨⟨by simpa using hne, ?_⟩, c, hc, (Except.ok.inj hs).symm⟩
    intro name hname
    obtain ⟨v, hv, rfl⟩ := List.mem_map.1 hname
    exact requireColumn_eq_ok_iff.1 (forM_eq_ok_iff.1 hvalues v hv)

theorem delete_eq_ok (h : t.delete written = .ok s) :
    ∃ ps, t.RowBinds written t.schema.keyColumns ps ∧
      s = ⟨"DELETE FROM " ++ t.name ++ " WHERE " ++
        " AND ".intercalate (assignments t.schema.keyColumns), ps⟩ := by
  unfold delete at h
  dsimp only at h
  split at h
  · simp at h
  · rename_i hne
    obtain ⟨row, hrow, hs⟩ := bind_eq_ok_iff.1 h
    obtain ⟨ps, hps, hs⟩ := bind_eq_ok_iff.1 hs
    exact ⟨ps, ⟨by simpa using hne, row, hrow, hps⟩, (Except.ok.inj hs).symm⟩

theorem deleteWhere_eq_ok {e : Expr} (h : t.deleteWhere e = .ok s) :
    ∃ c, t.condition e = .ok c ∧
      s = ⟨"DELETE FROM " ++ t.name ++ " WHERE " ++ c.query.sql, c.query.parameters⟩ := by
  obtain ⟨c, hc, hs⟩ := bind_eq_ok_iff.1 h
  exact ⟨c, hc, (Except.ok.inj hs).symm⟩

theorem softDelete_eq_ok (h : t.softDelete written = .ok s) :
    ∃ flag ps, t.schema.softDeleteColumn = some flag ∧
      t.RowBinds written t.schema.whereColumns ps ∧
      s = ⟨"UPDATE " ++ t.name ++ " SET " ++ flag ++ " = 1 WHERE " ++
        " AND ".intercalate (assignments t.schema.whereColumns), ps⟩ := by
  unfold softDelete at h
  split at h
  · simp at h
  · rename_i flag hflag
    dsimp only at h
    split at h
    · simp at h
    · rename_i hne
      obtain ⟨row, hrow, hs⟩ := bind_eq_ok_iff.1 h
      obtain ⟨ps, hps, hs⟩ := bind_eq_ok_iff.1 hs
      exact ⟨flag, ps, hflag, ⟨by simpa using hne, row, hrow, hps⟩, (Except.ok.inj hs).symm⟩

/-- A command asks for a statement in one of four ways. -/
theorem statement_eq_ok {kind : StatementKind} {predicate : Option Expr} {order : List String}
    {descending : Bool} (h : t.statement kind predicate order descending = .ok s) :
    (kind = .select ∧ predicate = none ∧ t.selectAll = .ok s) ∨
      (kind = .first ∧ t.findFirstByOrder order predicate descending = .ok s) ∨
      ∃ e, predicate = some e ∧
        ((kind = .select ∨ kind = .find) ∧ t.findAll e = .ok s ∨
          kind = .delete ∧ t.deleteWhere e = .ok s) := by
  unfold statement at h
  split at h
  · exact Or.inl ⟨rfl, rfl, mapError_eq_ok_iff.1 h⟩
  · exact Or.inr (Or.inr ⟨_, rfl, Or.inl ⟨Or.inl rfl, mapError_eq_ok_iff.1 h⟩⟩)
  · exact Or.inr (Or.inr ⟨_, rfl, Or.inl ⟨Or.inr rfl, mapError_eq_ok_iff.1 h⟩⟩)
  · exact Or.inr (Or.inr ⟨_, rfl, Or.inr ⟨rfl, mapError_eq_ok_iff.1 h⟩⟩)
  · exact Or.inr (Or.inl ⟨rfl, mapError_eq_ok_iff.1 h⟩)
  · simp at h
  · simp at h

end Table
end SqlFilter
