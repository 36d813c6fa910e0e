import SqlFilter.Proofs.Layout
import SqlFilter.Proofs.Statement.Closed
import SqlFilter.Proofs.Statement.RowWrites
/-! What inserts and updates bind for a row. There is a place in the text for each column, and in the
place stands whatever its value expands to: a placeholder, or those of a list in parentheses. Only
rows that are no object, or have an object in a column, are refused. -/
namespace SqlFilter
open Positional

namespace Table
variable {t : Table} {s : Statement}

/-- The text of an insert with the given texts for the values. -/
def insertText (t : Table) (marks : List String) : String :=
  "INSERT INTO " ++ t.name ++ " (" ++ ", ".intercalate (t.schema.insertColumns.map (·.name)) ++
    ") VALUES (" ++ ", ".intercalate marks ++ ")"

/-- Columns with a sign of equality and a text for the value of each. -/
def equated (columns : List Column) (marks : List String) : List String :=
  List.zipWith (fun c mark => c.name ++ " = " ++ mark) columns marks

/-- The text of an update with the given texts for the values, first of the columns that are set and
then of those that are matched. -/
def updateText (t : Table) (marks : List String) : String :=
  let count := t.schema.updateColumns.length
  "UPDATE " ++ t.name ++ " SET " ++
    ", ".intercalate (equated t.schema.updateColumns (marks.take count)) ++ " WHERE " ++
      " AND ".intercalate (equated t.schema.whereColumns (marks.drop count))

/-- A write of a row with the texts of its parameters in the places for the columns. By position each
place has what the value of its column expands to; it has one placeholder, and this value is bound,
just if no value is a list. -/
structure BindsRow (columns : List Column) (text : List String → String) (row : Row)
    (values : List Value) (s : Statement) : Prop where
  values_eq : List.Forall₂ (fun c v => row.value c.name = .ok v) columns values
  sql_eq : s.sql = text (columns.map fun c => "@" ++ c.name)
  positional (d : Dialect) :
    s.toPositional d = .ok ⟨text (expansions d 0 values), values.flatMap elements⟩
  scalar_iff (d : Dialect) :
    s.toPositional d = .ok ⟨text (placeholders d 0 columns.length), values⟩ ↔
      ∀ v ∈ values, v.items? = none

/-- A row's values stand in the places of a text that is laid out around its parameters. -/
theorem bindsRow_of_laid {columns : List Column} {row : Row} {text : List String → String}
    (hbind : row.bind columns = .ok s.parameters) (hlaid : Laid s.parameters text)
    (hsql : s.sql = text (columns.map fun c => "@" ++ c.name))
    (hnames : (s.parameters.map (·.name)).Nodup) :
    BindsRow columns text row (s.parameters.map (·.value)) s := by
  let values := s.parameters.map (·.value)
  have hpairs := Row.bind_eq_ok_iff.1 hbind
  have hvalues : List.Forall₂ (fun c v => row.value c.name = .ok v) columns values := by
    rw [List.forall₂_map_right_iff]
    exact hpairs.imp fun _ _ hp => hp.1
  have hreferences : (columns.map fun c => "@" ++ c.name) =
      s.parameters.map fun p => "@" ++ p.name := by
    have hmap := congrArg (List.map ("@" ++ ·)) (Row.names_bind hbind)
    simp only [List.map_map] at hmap
    exact hmap.symm
  have hpositional := Statement.toPositional_of_laid hlaid (hreferences ▸ hsql) hnames
  refine ⟨hvalues, hsql, hpositional, ?_⟩
  intro d
  rw [hpositional d]
  constructor
  · intro h
    have hsame := congrArg PositionalStatement.values (Except.ok.inj h)
    exact flatMap_elements_eq_self_iff.1 hsame
  · intro hscalar
    rw [expansions_of_scalars d 0 hscalar, flatMap_elements_of_scalars hscalar, hvalues.length_eq]

theorem equated_references (columns : List Column) :
    equated columns (columns.map fun c => "@" ++ c.name) = assignments columns := by
  have hequals : " = @" = " = " ++ "@" := rfl
  rw [equated, List.zipWith_map_right, List.zipWith_self, assignments]
  simp only [assignment, hequals, String.append_assoc]

/-- Only the names of the columns stand beside the texts for their values. -/
theorem equated_eq_zipWith {columns : List Column} {ps : List Parameter}
    (hnames : ps.map (·.name) = columns.map (·.name)) (marks : List String) :
    equated columns marks = List.zipWith (fun p mark => p.name ++ " = " ++ mark) ps marks := by
  let equate (name mark : String) := name ++ " = " ++ mark
  have hcolumns : equated columns marks = List.zipWith equate (columns.map (·.name)) marks := by
    rw [List.zipWith_map_left]
    rfl
  rw [hcolumns, ← hnames, List.zipWith_map_left]

section Usable
variable (ht : t.schema.Usable) {written : Except String Json}
include ht

theorem bindsRow_insert (h : t.insert written = .ok s) :
    ∃ row values, Row.read t.name written = .ok row ∧
      BindsRow t.schema.insertColumns t.insertText row values s := by
  have hnames := (closed_insert ht h).names_nodup
  obtain ⟨ps, hps, rfl⟩ := insert_eq_ok h
  obtain ⟨hident, -⟩ := hps.names ht
  obtain ⟨-, row, hrow, hbind⟩ := hps
  have hclosing : IsSeparator ")" := by decide
  have hmarks := Laid.commas hident
  -- the references stand between commas, after the names of the columns and before the bracket
  have hlaid := (hmarks.after (isPlain_insert_opening ht)).before hclosing
  refine ⟨row, _, hrow, bindsRow_of_laid hbind hlaid ?_ hnames⟩
  have hreferences : (t.schema.insertColumns.map (·.name)).map ("@" ++ ·) =
      t.schema.insertColumns.map fun c => "@" ++ c.name := List.map_map
  rw [hreferences]
  rfl

theorem bindsRow_update (h : t.update written = .ok s) :
    ∃ row values, Row.read t.name written = .ok row ∧
      BindsRow (t.schema.updateColumns ++ t.schema.whereColumns) t.updateText row values s := by
  have hnames := (closed_update ht h).names_nodup
  obtain ⟨set, matched, hset, hmatched, rfl⟩ := update_eq_ok h
  have hsetNames := hset.names_eq
  have hmatchedNames := hmatched.names_eq
  obtain ⟨hsetIdent, -⟩ := hset.names ht
  obtain ⟨hmatchedIdent, -⟩ := hmatched.names ht
  obtain ⟨-, row, hrow, hsetBind⟩ := hset
  obtain ⟨-, row', hrow', hmatchedBind⟩ := hmatched
  obtain rfl : row = row' := Except.ok.inj (hrow.symm.trans hrow')
  have hbind : row.bind (t.schema.updateColumns ++ t.schema.whereColumns) = .ok (set ++ matched) := by
    rw [Row.bind_eq_ok_iff] at hsetBind hmatchedBind ⊢
    exact List.rel_append hsetBind hmatchedBind
  have hcomma : IsSeparator ", " := by decide
  have hand : IsSeparator " AND " := by decide
  have hwhere : IsSeparator " WHERE " := by decide
  have hplain : ∀ {q : Parameter}, isIdentifier q.name = true → IsPlain (q.name ++ " = ") := by
    intro q hq
    exact (isPlain_of_isIdentifier hq).append (by decide)
  have hsetPlaces := Laid.intercalate hcomma fun q hq => ⟨hsetIdent q hq, hplain (hsetIdent q hq)⟩
  have hmatchedPlaces := Laid.intercalate hand
    fun q hq => ⟨hmatchedIdent q hq, hplain (hmatchedIdent q hq)⟩
  have hlaid : Laid (set ++ matched) t.updateText := by
    refine ((hsetPlaces.after (isPlain_update_opening ht)).join hmatchedPlaces hwhere).congr ?_
    intro ms _
    have hcount : set.length = t.schema.updateColumns.length := by
      simpa using congrArg List.length hsetNames
    simp only [updateText, equated_eq_zipWith hsetNames, equated_eq_zipWith hmatchedNames, hcount]
  refine ⟨row, _, hrow, bindsRow_of_laid hbind hlaid ?_ hnames⟩
  have hsetRefs := equated_references t.schema.updateColumns
  have hmatchedRefs := equated_references t.schema.whereColumns
  have hlength : (t.schema.updateColumns.map fun c => "@" ++ c.name).length =
      t.schema.updateColumns.length := List.length_map _
  simp only [updateText, List.map_append, List.take_left' hlength, List.drop_left' hlength,
    hsetRefs, hmatchedRefs]

end Usable

theorem settles_insert (hne : t.schema.insertColumns ≠ []) (j : Json) :
    Settles (t.insert (.ok j)) (Row.HoldsValues t.schema.insertColumns j)
      (Row.Refused t.name t.schema.insertColumns j) :=
  RowWrite.settles_of_supportedBy (w := .insert) (RowWrite.supportedBy_iff.2 hne) j

theorem settles_update (hset : t.schema.updateColumns ≠ []) (hmatched : t.schema.whereColumns ≠ [])
    (j : Json) :
    Settles (t.update (.ok j))
      (Row.HoldsValues (t.schema.updateColumns ++ t.schema.whereColumns) j)
      (Row.Refused t.name (t.schema.updateColumns ++ t.schema.whereColumns) j) :=
  RowWrite.settles_of_supportedBy (w := .update) (RowWrite.supportedBy_iff.2 ⟨hset, hmatched⟩) j

/-- Inserts and updates bind what a row has for their columns. The statement by position has one
placeholder for each column, and its values are the row's values of these columns in order, just if
no value is a list. A document is refused just if it is no object, lacks a column or has an object in
one, but a list is expanded in the place of its column. -/
theorem row_binds_scalars_iff {settings : Settings} (hsettings : settings.fault? = none)
    {entity : String} {schema : Schema} (hschema : settings.schema entity = .ok schema)
    (d : Dialect) (options : CompileOptions) :
    let t : Table := ⟨schema, d, options⟩
    let changed := schema.updateColumns ++ schema.whereColumns
    (∀ written s, t.insert written = .ok s → ∃ row values, Row.read t.name written = .ok row ∧
      BindsRow schema.insertColumns t.insertText row values s) ∧
    (∀ written s, t.update written = .ok s → ∃ row values, Row.read t.name written = .ok row ∧
      BindsRow changed t.updateText row values s) ∧
    (∀ j, schema.insertColumns ≠ [] → Settles (t.insert (.ok j))
      (Row.HoldsValues schema.insertColumns j) (Row.Refused t.name schema.insertColumns j)) ∧
    ∀ j, schema.updateColumns ≠ [] → schema.whereColumns ≠ [] → Settles (t.update (.ok j))
      (Row.HoldsValues changed j) (Row.Refused t.name changed j) := by
  intro t changed
  have ht : t.schema.Usable := Settings.usable_of_schema hsettings hschema
  refine ⟨?_, ?_, ?_, ?_⟩
  · intro written s hs
    exact bindsRow_insert ht hs
  · intro written s hs
    exact bindsRow_update ht hs
  · intro j hne
    exact settles_insert (t := t) hne j
  · intro j hset hmatched
    exact settles_update (t := t) hset hmatched j

theorem row_binds_scalars_iff_flat :
    let schema : Schema := ⟨"Users", [.key "Id", .plain "Name", .plain "Age"], none⟩
    let settings : Settings := ⟨⟨true, true⟩, .sqlite, NameMap.empty.insert "User" schema⟩
    let t : Table := ⟨schema, .sqlite, ⟨true, true⟩⟩
    let row : Json := .object [("Age", .int 41), ("Name", .text "Ann"), ("Id", .int 1)]
    let nested : Json := .object [("Name", .null), ("Age", .list [.object []])]
    let insert : Statement := ⟨"INSERT INTO Users (Name, Age) VALUES (@Name, @Age)",
      [⟨"Name", .text "Ann"⟩, ⟨"Age", .int 41⟩]⟩
    let update : Statement := ⟨"UPDATE Users SET Name = @Name, Age = @Age WHERE Id = @Id",
      [⟨"Name", .text "Ann"⟩, ⟨"Age", .int 41⟩, ⟨"Id", .int 1⟩]⟩
    settings.fault? = none ∧ settings.schema "User" = .ok schema ∧
      t.insert (.ok row) = .ok insert ∧
      (∃ r values, BindsRow [.plain "Name", .plain "Age"] t.insertText r values insert) ∧
      t.update (.ok row) = .ok update ∧
      (∃ r values, BindsRow [.plain "Name", .plain "Age", .key "Id"] t.updateText r values update) ∧
      t.insert (.ok nested) = .error (.invalidRow "Users" (.objectAt "Age")) ∧
      t.update (.ok .null) = .error (.invalidRow "Users" (.notAnObject "null")) := by
  intro schema settings t row nested insert update
  have hsettings : settings.fault? = none := by decide
  have hschema : settings.schema "User" = .ok schema := by decide
  have hinsert : t.insert (.ok row) = .ok insert := by rfl
  have hupdate : t.update (.ok row) = .ok update := by rfl
  obtain ⟨hinserts, hupdates, hinsertSettles, hupdateSettles⟩ :=
    row_binds_scalars_iff hsettings hschema .sqlite ⟨true, true⟩
  obtain ⟨r, values, -, hbinds⟩ := hinserts _ _ hinsert
  obtain ⟨r', values', -, hbinds'⟩ := hupdates _ _ hupdate
  have hset : schema.insertColumns ≠ [] ∧ schema.updateColumns ≠ [] ∧ schema.whereColumns ≠ [] := by
    decide
  refine ⟨hsettings, hschema, hinsert, ⟨r, values, hbinds⟩, hupdate, ⟨r', values', hbinds'⟩, ?_, ?_⟩
  · have hname : ∀ b ∈ [Column.plain "Name"],
        Row.HoldsValue [("Name", .null), ("Age", .list [.object []])] b.name := by
      rw [List.forall_mem_singleton]
      exact ⟨.null, rfl, rfl⟩
    refine ((hinsertSettles nested hset.1).error_iff _).2 ?_
    exact Row.Refused.nested rfl (rfl : _ = [.plain "Name"] ++ .plain "Age" :: []) hname rfl rfl
  · exact ((hupdateSettles .null hset.2.1 hset.2.2).error_iff _).2 (.notAnObject rfl)

/-- A list is expanded, so that there are two placeholders and two values for the one column. -/
theorem row_binds_list :
    let schema : Schema := ⟨"Users", [.plain "Name"], none⟩
    let settings : Settings := ⟨⟨true, true⟩, .sqlite, NameMap.empty.insert "User" schema⟩
    let t : Table := ⟨schema, .sqlite, ⟨true, true⟩⟩
    let s : Statement := ⟨"INSERT INTO Users (Name) VALUES (@Name)",
      [⟨"Name", .list [.text "a", .text "b"]⟩]⟩
    settings.fault? = none ∧ settings.schema "User" = .ok schema ∧
      t.insert (.ok (.object [("Name", .list [.text "a", .text "b"])])) = .ok s ∧
      s.toPositional .sqlite =
        .ok ⟨"INSERT INTO Users (Name) VALUES ((?, ?))", [.text "a", .text "b"]⟩ ∧
      ∀ p, s.toPositional .sqlite = .ok p → p.values.length ≠ schema.insertColumns.length := by
  intro schema settings t s
  have hs : t.insert (.ok (.object [("Name", .list [.text "a", .text "b"])])) = .ok s := by rfl
  have hpositional : s.toPositional .sqlite =
      .ok ⟨"INSERT INTO Users (Name) VALUES ((?, ?))", [.text "a", .text "b"]⟩ := by
    simp only [s]
    rfl
  refine ⟨by decide, by decide, hs, hpositional, ?_⟩
  intro p hp
  rw [hpositional] at hp
  obtain rfl := Except.ok.inj hp
  decide

end Table
end SqlFilter
