import SqlFilter.Proofs.Json.Reading
import SqlFilter.Proofs.Statement.Assembly
import SqlFilter.Proofs.Usable
/-! When rows can be written. A write looks at the schema first and at the row last, and what it binds
for a row depends only on its columns. -/
namespace SqlFilter

namespace Row

/-- The members of an object have a value for a column: a document without an object in it. -/
def HoldsValue (fields : List (String × Json)) (column : String) : Prop :=
  ∃ j, fields.reverse.lookup column = some j ∧ j.holdsObject = false

/-- The document is an object with a value for each of the columns. -/
def HoldsValues (columns : List Column) (j : Json) : Prop :=
  ∃ fields, j = .object fields ∧ ∀ c ∈ columns, HoldsValue fields c.name

/-- Why a document is no row with values for the columns: what is wrong with the first column that
has none. -/
inductive Refused (table : String) (columns : List Column) (j : Json) : StatementError → Prop
  | notAnObject (hj : j.members? = none) :
      Refused table columns j (.invalidRow table (.notAnObject j.sort))
  | missing {fields : List (String × Json)} {before after : List Column} {c : Column}
      (hj : j = .object fields) (split : columns = before ++ c :: after)
      (hbefore : ∀ b ∈ before, HoldsValue fields b.name)
      (hnone : fields.reverse.lookup c.name = none) :
      Refused table columns j (.missingValue table c.name)
  | nested {fields : List (String × Json)} {before after : List Column} {c : Column} {doc : Json}
      (hj : j = .object fields) (split : columns = before ++ c :: after)
      (hbefore : ∀ b ∈ before, HoldsValue fields b.name)
      (hdoc : fields.reverse.lookup c.name = some doc) (hobject : doc.holdsObject = true) :
      Refused table columns j (.invalidRow table (.objectAt c.name))

theorem settles_value (row : Row) (column : String) :
    Settles (row.value column) (HoldsValue row.fields column) fun x =>
      (row.fields.reverse.lookup column = none ∧ x = .missingValue row.table column) ∨
        ∃ j, row.fields.reverse.lookup column = some j ∧ j.holdsObject = true ∧
          x = .invalidRow row.table (.objectAt column) := by
  unfold value HoldsValue
  cases row.fields.reverse.lookup column with
  | none => exact settles_error (by simp) (by simp)
  | some j =>
    -- reading fails just on an object, so the document settles which of the two it is
    have hread := Value.isSome_ofJson? j
    cases hvalue : Value.ofJson? j with
    | none =>
      have hobject : j.holdsObject = true := by simpa [hvalue] using hread
      simp only [hvalue]
      exact settles_error (by simp [hobject]) (by simp [hobject])
    | some v =>
      have hobject : j.holdsObject = false := by simpa [hvalue] using hread
      simp only [hvalue]
      exact settles_ok v ⟨j, rfl, hobject⟩ (by simp [hobject])

theorem settles_bind (row : Row) (columns : List Column) :
    Settles (row.bind columns) (∀ c ∈ columns, HoldsValue row.fields c.name) fun x =>
      ∃ before c after, columns = before ++ c :: after ∧
        (∀ b ∈ before, HoldsValue row.fields b.name) ∧
          ((row.fields.reverse.lookup c.name = none ∧ x = .missingValue row.table c.name) ∨
            ∃ j, row.fields.reverse.lookup c.name = some j ∧ j.holdsObject = true ∧
              x = .invalidRow row.table (.objectAt c.name)) := by
  refine settles_mapM (fun c => ?_) columns
  have hmap : (do return ⟨c.name, ← row.value c.name⟩ : Except StatementError Parameter) =
      (row.value c.name).map fun v => ⟨c.name, v⟩ := by cases row.value c.name <;> rfl
  rw [hmap]
  exact (settles_value row c.name).map _

theorem read_of_not_object {table : String} {j : Json} (hj : j.members? = none) :
    Row.read table (.ok j) = .error (.invalidRow table (.notAnObject j.sort)) := by
  cases j with
  | object fields => simp [Json.members?] at hj
  | _ => rfl

/-- A document is read as a row and gives parameters for the columns just if it has values for them,
and otherwise the first column without a value is told. -/
theorem settles_bind_read (table : String) (columns : List Column) (j : Json) :
    Settles (do let row ← Row.read table (.ok j); row.bind columns)
      (HoldsValues columns j) (Refused table columns j) := by
  cases hmembers : j.members? with
  | none =>
    have hobject : ∀ fields, j ≠ .object fields := by
      rintro fields rfl
      simp [Json.members?] at hmembers
    rw [read_of_not_object hmembers, error_bind]
    refine settles_error ?_ ?_
    · rintro ⟨fields, hj, -⟩
      exact hobject fields hj
    · intro x
      constructor
      · intro hx
        cases hx with
        | notAnObject _ => rfl
        | missing hj _ _ _ => exact absurd hj (hobject _)
        | nested hj _ _ _ _ => exact absurd hj (hobject _)
      · rintro rfl
        exact .notAnObject hmembers
  | some fields =>
    have hj : j = .object fields := by
      cases j with
      | object _ => rw [Option.some.inj hmembers]
      | _ => simp [Json.members?] at hmembers
    subst hj
    refine (settles_bind ⟨table, fields⟩ columns).congr ?_ ?_
    · constructor
      · intro h
        exact ⟨fields, rfl, h⟩
      · rintro ⟨fields', hfields, h⟩
        rwa [Json.object.inj hfields]
    · intro x
      constructor
      · rintro ⟨before, c, after, split, hbefore, ⟨hnone, rfl⟩ | ⟨doc, hdoc, hobject, rfl⟩⟩
        · exact .missing rfl split hbefore hnone
        · exact .nested rfl split hbefore hdoc hobject
      · intro hx
        cases hx with
        | notAnObject hnone => simp [Json.members?] at hnone
        | @missing _ before after c hfields split hbefore hnone =>
          obtain rfl := Json.object.inj hfields
          exact ⟨before, c, after, split, hbefore, Or.inl ⟨hnone, rfl⟩⟩
        | @nested _ before after c doc hfields split hbefore hdoc hobject =>
          obtain rfl := Json.object.inj hfields
          exact ⟨before, c, after, split, hbefore, Or.inr ⟨doc, hdoc, hobject, rfl⟩⟩

end Row

/-- The writes of a single row. -/
inductive RowWrite
  | insert
  | update
  | delete
  | softDelete
deriving DecidableEq, Repr

namespace RowWrite

def statement (t : Table) : RowWrite → Except String Json → Except StatementError Statement
  | .insert => t.insert
  | .update => t.update
  | .delete => t.delete
  | .softDelete => t.softDelete

/-- The columns that are bound, in the order of the parameters. -/
def columns (s : Schema) : RowWrite → List Column
  | .insert => s.insertColumns
  | .update => s.updateColumns ++ s.whereColumns
  | .delete => s.keyColumns
  | .softDelete => s.whereColumns

/-- Whether the schema has the columns that a write needs. -/
def SupportedBy (s : Schema) : RowWrite → Prop
  | .insert => ∃ c ∈ s.columns, c.inInsert
  | .update => (∃ c ∈ s.columns, c.inUpdate ∧ ¬c.isKey ∧ ¬c.inWhere) ∧
      ∃ c ∈ s.columns, c.isKey ∨ c.inWhere
  | .delete => ∃ c ∈ s.columns, c.isKey
  | .softDelete => s.softDeleteColumn.isSome ∧ ∃ c ∈ s.columns, c.isKey ∨ c.inWhere

/-- What is at fault with a schema that does not support a write. -/
inductive SchemaFault (s : Schema) : RowWrite → StatementError → Prop
  | insert (h : s.insertColumns = []) : SchemaFault s .insert (.noColumns s.tableName .insert)
  | update (h : s.updateColumns = []) : SchemaFault s .update (.noColumns s.tableName .update)
  | updateKey (hset : s.updateColumns ≠ []) (h : s.whereColumns = []) :
      SchemaFault s .update (.missingKey s.tableName)
  | delete (h : s.keyColumns = []) : SchemaFault s .delete (.missingKey s.tableName)
  | softDelete (h : s.softDeleteColumn = none) :
      SchemaFault s .softDelete (.softDeleteUnsupported s.tableName)
  | softDeleteKey (hflag : s.softDeleteColumn.isSome) (h : s.whereColumns = []) :
      SchemaFault s .softDelete (.missingKey s.tableName)

variable {t : Table} {w : RowWrite}

theorem supportedBy_iff {s : Schema} : w.SupportedBy s ↔ match w with
    | .insert => s.insertColumns ≠ []
    | .update => s.updateColumns ≠ [] ∧ s.whereColumns ≠ []
    | .delete => s.keyColumns ≠ []
    | .softDelete => s.softDeleteColumn.isSome ∧ s.whereColumns ≠ [] := by
  have hinsert : (∃ c ∈ s.columns, c.inInsert) ↔ s.insertColumns ≠ [] := by
    simp [Schema.insertColumns]
  have hset : (∃ c ∈ s.columns, c.inUpdate ∧ ¬c.isKey ∧ ¬c.inWhere) ↔ s.updateColumns ≠ [] := by
    simp [Schema.updateColumns, and_assoc]
  have hkey : (∃ c ∈ s.columns, c.isKey) ↔ s.keyColumns ≠ [] := by
    simp [Schema.keyColumns]
  have hmatched : (∃ c ∈ s.columns, c.isKey ∨ c.inWhere) ↔ s.whereColumns ≠ [] := by
    simp [Schema.whereColumns, or_iff_not_imp_left]
  cases w with
  | insert => exact hinsert
  | update => exact and_congr hset hmatched
  | delete => exact hkey
  | softDelete => exact and_congr_right fun _ => hmatched

theorem supportedBy_or_schemaFault (w : RowWrite) (s : Schema) :
    w.SupportedBy s ∨ ∃ x, SchemaFault s w x := by
  rw [supportedBy_iff]
  cases w with
  | insert =>
    by_cases h : s.insertColumns = []
    · exact Or.inr ⟨_, .insert h⟩
    · exact Or.inl h
  | update =>
    by_cases hset : s.updateColumns = []
    · exact Or.inr ⟨_, .update hset⟩
    · by_cases h : s.whereColumns = []
      · exact Or.inr ⟨_, .updateKey hset h⟩
      · exact Or.inl ⟨hset, h⟩
  | delete =>
    by_cases h : s.keyColumns = []
    · exact Or.inr ⟨_, .delete h⟩
    · exact Or.inl h
  | softDelete =>
    cases hflag : s.softDeleteColumn with
    | none => exact Or.inr ⟨_, .softDelete hflag⟩
    | some flag =>
      by_cases h : s.whereColumns = []
      · exact Or.inr ⟨_, .softDeleteKey (by rw [hflag]; rfl) h⟩
      · exact Or.inl ⟨rfl, h⟩

/-- A fault of the schema is told whatever the row is. -/
theorem statement_of_schemaFault {x : StatementError} (h : SchemaFault t.schema w x)
    (written : Except String Json) : w.statement t written = .error x := by
  cases h with
  | insert h => simp [statement, Table.insert, h, Table.name]
  | update h => simp [statement, Table.update, h, Table.name]
  | updateKey hset h => simp [statement, Table.update, hset, h, Table.name]
  | delete h => simp [statement, Table.delete, h, Table.name]
  | softDelete h => simp [statement, Table.softDelete, h, Table.name]
  | softDeleteKey hflag h =>
    obtain ⟨flag, hflag⟩ := Option.isSome_iff_exists.1 hflag
    simp [statement, Table.softDelete, hflag, h, Table.name]

/-- On a schema that supports it, a write has one text and binds its columns for the row. -/
theorem exists_statement_eq (h : w.SupportedBy t.schema) :
    ∃ sql, ∀ written, w.statement t written = (do
      let row ← Row.read t.name written
      let ps ← row.bind (w.columns t.schema)
      return ⟨sql, ps⟩) := by
  rw [supportedBy_iff] at h
  cases w with
  | insert =>
    refine ⟨"INSERT INTO " ++ t.name ++ " (" ++ ", ".intercalate (t.schema.insertColumns.map (·.name)) ++
      ") VALUES (" ++ ", ".intercalate ((t.schema.insertColumns.map (·.name)).map ("@" ++ ·)) ++ ")",
      fun written => ?_⟩
    simp only [statement, Table.insert, List.isEmpty_iff, if_neg h, columns]
  | update =>
    obtain ⟨hset, hmatched⟩ := h
    refine ⟨"UPDATE " ++ t.name ++ " SET " ++
      ", ".intercalate (Table.assignments t.schema.updateColumns) ++ " WHERE " ++
      " AND ".intercalate (Table.assignments t.schema.whereColumns), fun written => ?_⟩
    -- what is set is bound before what is matched, so both are bound in one go
    simp only [statement, Table.update, List.isEmpty_iff, if_neg hset, if_neg hmatched, columns,
      Row.bind, List.mapM_append, bind_assoc, pure_bind]
  | delete =>
    refine ⟨"DELETE FROM " ++ t.name ++ " WHERE " ++
      " AND ".intercalate (Table.assignments t.schema.keyColumns), fun written => ?_⟩
    simp only [statement, Table.delete, List.isEmpty_iff, if_neg h, columns]
  | softDelete =>
    obtain ⟨hflag, hmatched⟩ := h
    obtain ⟨flag, hflag⟩ := Option.isSome_iff_exists.1 hflag
    refine ⟨"UPDATE " ++ t.name ++ " SET " ++ flag ++ " = 1 WHERE " ++
      " AND ".intercalate (Table.assignments t.schema.whereColumns), fun written => ?_⟩
    -- the flag is set to a constant and binds nothing
    simp only [statement, Table.softDelete, hflag, List.isEmpty_iff, if_neg hmatched, columns]

theorem settles_of_supportedBy (h : w.SupportedBy t.schema) (j : Json) :
    Settles (w.statement t (.ok j)) (Row.HoldsValues (w.columns t.schema) j)
      (Row.Refused t.name (w.columns t.schema) j) := by
  obtain ⟨sql, hsql⟩ := exists_statement_eq h
  have hmap : w.statement t (.ok j) =
      (do let row ← Row.read t.name (.ok j); row.bind (w.columns t.schema) :
        Except StatementError _).map fun ps => ⟨sql, ps⟩ := by
    rw [hsql]
    cases Row.read t.name (.ok j) with
    | error x => rfl
    | ok row =>
      rw [ok_bind, ok_bind]
      cases row.bind (w.columns t.schema) with
      | error x => rfl
      | ok ps => rfl
  rw [hmap]
  exact (Row.settles_bind_read _ _ _).map _

/-- A write is settled first by the schema, then by the row. -/
theorem settles_statement (t : Table) (w : RowWrite) (j : Json) :
    Settles (w.statement t (.ok j)) (w.SupportedBy t.schema ∧ Row.HoldsValues (w.columns t.schema) j)
      fun x => SchemaFault t.schema w x ∨
        w.SupportedBy t.schema ∧ Row.Refused t.name (w.columns t.schema) j x := by
  refine settles_of_cases ?_ ?_ ?_
  · rintro ⟨hsupported, hrow⟩
    exact (settles_of_supportedBy hsupported j).ok_iff.2 hrow
  · rintro x (hfault | ⟨hsupported, hrefused⟩)
    · exact statement_of_schemaFault hfault (.ok j)
    · exact ((settles_of_supportedBy hsupported j).error_iff x).2 hrefused
  · -- a row is looked at only where the schema is in order
    rcases supportedBy_or_schemaFault w t.schema with hsupported | ⟨x, hfault⟩
    · rcases (settles_of_supportedBy hsupported j).cases with hrow | ⟨x, hrefused⟩
      · exact Or.inl ⟨hsupported, hrow⟩
      · exact Or.inr ⟨x, Or.inr ⟨hsupported, hrefused⟩⟩
    · exact Or.inr ⟨x, Or.inl hfault⟩

end RowWrite

/-- A parameter has the name of its column and the value of the row there. -/
def Row.Gives (fields : List (String × Json)) (c : Column) (p : Parameter) : Prop :=
  p.name = c.name ∧ ∃ doc, fields.reverse.lookup c.name = some doc ∧ Value.ofJson? doc = some p.value

theorem Row.value_eq_ok_iff {row : Row} {column : String} {v : Value} :
    row.value column = .ok v ↔
      ∃ doc, row.fields.reverse.lookup column = some doc ∧ Value.ofJson? doc = some v := by
  unfold value
  cases row.fields.reverse.lookup column with
  | none => simp
  | some doc =>
    cases hdoc : Value.ofJson? doc with
    | none => simp [hdoc]
    | some v => simp [hdoc]

theorem RowWrite.gives_of_statement {t : Table} {w : RowWrite} {j : Json} {s : Statement}
    (h : w.statement t (.ok j) = .ok s) :
    ∃ fields, j = .object fields ∧
      List.Forall₂ (Row.Gives fields) (w.columns t.schema) s.parameters := by
  have hsupported := ((settles_statement t w j).ok_iff.1 ⟨s, h⟩).1
  obtain ⟨sql, hsql⟩ := exists_statement_eq hsupported
  rw [hsql] at h
  obtain ⟨row, hrow, h⟩ := bind_eq_ok_iff.1 h
  obtain ⟨ps, hps, h⟩ := bind_eq_ok_iff.1 h
  obtain rfl := Except.ok.inj h
  have hj : j = .object row.fields := by
    cases j with
    | object fields => rw [← Except.ok.inj hrow]
    | _ => simp [Row.read] at hrow
  refine ⟨row.fields, hj, (Row.bind_eq_ok_iff.1 hps).imp ?_⟩
  rintro c p ⟨hvalue, hname⟩
  exact ⟨hname.symm, Row.value_eq_ok_iff.1 hvalue⟩

namespace Table

/-- A row is written just if the schema has the columns for it and the row has a value for each that
is bound; otherwise the fault of the schema is told, or else the first fault of the row. What is bound
is the row's values in the order of the columns, and an update sets nothing that it matches. Many rows
are inserted just if each of them is, and otherwise the first that fails is told. -/
theorem rows_written_iff (t : Table) (hnames : (t.schema.columns.map (·.name)).Nodup) :
    (∀ (w : RowWrite) (j : Json), Settles (w.statement t (.ok j))
      (w.SupportedBy t.schema ∧ Row.HoldsValues (w.columns t.schema) j)
      fun x => w.SchemaFault t.schema x ∨
        w.SupportedBy t.schema ∧ Row.Refused t.name (w.columns t.schema) j x) ∧
    (∀ (w : RowWrite) j s, w.statement t (.ok j) = .ok s → ∃ fields, j = .object fields ∧
      List.Forall₂ (Row.Gives fields) (w.columns t.schema) s.parameters) ∧
    (∀ written s, t.update written = .ok s →
      s.sql = "UPDATE " ++ t.name ++ " SET " ++ ", ".intercalate (assignments t.schema.updateColumns) ++
        " WHERE " ++ " AND ".intercalate (assignments t.schema.whereColumns) ∧
      ∀ c ∈ t.schema.columns, c.isKey ∨ c.inWhere → c.name ∉ t.schema.updateColumns.map (·.name)) ∧
    ∀ rows,
      (∀ ss, t.insertAll rows = .ok ss ↔ List.Forall₂ (fun r s => t.insert r = .ok s) rows ss) ∧
      ∀ x, t.insertAll rows = .error x ↔ ∃ before r after, rows = before ++ r :: after ∧
        (∀ b ∈ before, ∃ s, t.insert b = .ok s) ∧ t.insert r = .error x := by
  refine ⟨RowWrite.settles_statement t, fun _ _ _ => RowWrite.gives_of_statement, ?_, ?_⟩
  · intro written s h
    obtain ⟨set, matched, -, -, rfl⟩ := update_eq_ok h
    exact ⟨rfl, fun c hc hmatched => Schema.name_notMem_updateColumns hnames hc hmatched⟩
  · intro rows
    exact ⟨fun _ => mapM_eq_ok_iff, fun _ => mapM_eq_error_iff⟩

theorem rows_written_iff_users :
    let tenant : Column := (Column.plain "Tenant").whereMatched true
    let t : Table := ⟨⟨"Users", [.key "Id", .plain "Name", tenant], none⟩, .sqlite, ⟨true, true⟩⟩
    let row : Json := .object [("Tenant", .int 7), ("Id", .int 1), ("Name", .text "Ann")]
    let nested : Json := .object [("Name", .object []), ("Id", .int 1)]
    let update : Statement :=
      ⟨"UPDATE Users SET Name = @Name WHERE Id = @Id AND Tenant = @Tenant",
        [⟨"Name", .text "Ann"⟩, ⟨"Id", .int 1⟩, ⟨"Tenant", .int 7⟩]⟩
    (t.schema.columns.map (·.name)).Nodup ∧ t.update (.ok row) = .ok update ∧
      (∃ fields, row = .object fields ∧
        List.Forall₂ (Row.Gives fields) [.plain "Name", .key "Id", tenant] update.parameters) ∧
      t.update (.ok nested) = .error (.invalidRow "Users" (.objectAt "Name")) ∧
      t.softDelete (.ok nested) = .error (.softDeleteUnsupported "Users") ∧
      t.insertAll [.ok row, .ok nested, .ok .null] =
        .error (.invalidRow "Users" (.objectAt "Name")) := by
  intro tenant t row nested update
  have hnames : (t.schema.columns.map (·.name)).Nodup := by decide
  have hupdate : t.update (.ok row) = .ok update := rfl
  obtain ⟨hsettles, hgives, -, hrows⟩ := rows_written_iff t hnames
  have hsupported : RowWrite.update.SupportedBy t.schema :=
    RowWrite.supportedBy_iff.2 (by decide)
  have hrefused : Row.Refused "Users" [.plain "Name", .key "Id", tenant] nested
      (.invalidRow "Users" (.objectAt "Name")) :=
    .nested rfl (List.nil_append _).symm (by simp) rfl rfl
  refine ⟨hnames, hupdate, hgives .update row update hupdate, ?_, ?_, ?_⟩
  · exact ((hsettles .update nested).error_iff _).2 (Or.inr ⟨hsupported, hrefused⟩)
  · exact ((hsettles .softDelete nested).error_iff _).2 (Or.inl (.softDelete rfl))
  · have hfirst : ∀ r ∈ [Except.ok row], ∃ s, t.insert r = .ok s := by
      rw [List.forall_mem_singleton]
      exact ⟨_, rfl⟩
    exact ((hrows _).2 _).2 ⟨[.ok row], .ok nested, [.ok .null], rfl, hfirst, rfl⟩

end Table
end SqlFilter
