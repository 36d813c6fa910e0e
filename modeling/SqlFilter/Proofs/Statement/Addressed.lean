import SqlFilter.Proofs.Statement.Filtered
/-! Whether the write of a row finds the row. Its condition compares each matched column with the
row's own value by a plain sign of equality, also where the row has no value that equals itself. -/
namespace SqlFilter

/-- A value that equals itself in SQL. Null and a float that is no number are equal to nothing, and
no column holds a list. -/
def Value.EqualsSelf : Value → Prop
  | .null | .list _ => False
  | .float x => x.isNaN = false
  | _ => True

/-- Equality of values with three truth values, whatever else it takes for equal. -/
structure Equality where
  test : Value → Value → Truth
  null_left (v : Value) : test .null v = .unknown
  null_right (v : Value) : test v .null = .unknown
  self {v : Value} (hv : v.EqualsSelf) : test v v = .holds

open Classical in
/-- The equality that takes nothing for equal unless it has to. -/
noncomputable def Equality.least : Equality where
  test v w := if v.EqualsSelf ∧ v = w then .holds else .unknown
  null_left v := if_neg fun h => h.1
  null_right v := by
    refine if_neg ?_
    rintro ⟨hv, rfl⟩
    exact hv
  self hv := if_pos ⟨hv, rfl⟩

theorem Value.equalsSelf_of_forall {v : Value} (h : ∀ E : Equality, E.test v v = .holds) :
    v.EqualsSelf := by
  have hleast := h Equality.least
  by_contra hv
  rw [Equality.least] at hleast
  simp [hv] at hleast

/-- The truth of a test for a row: what equality says of the row's own value and the other one. -/
def Row.judge (E : Equality) (row : Row) : Test → Truth
  | .against field .eq value =>
    match row.value field with
    | .ok own => E.test own value
    | .error _ => .unknown
  | _ => .unknown

theorem Row.judge_equation {row : Row} {p : Parameter} (h : row.value p.name = .ok p.value)
    (E : Equality) : row.judge E p.equation = E.test p.value p.value := by
  simp only [judge, Parameter.equation, h]

theorem Row.value_of_mem_bind {row : Row} {columns : List Column} {ps : List Parameter}
    (h : row.bind columns = .ok ps) : ∀ p ∈ ps, row.value p.name = .ok p.value := by
  have hps := Row.bind_eq_ok_iff.1 h
  clear h
  induction hps with
  | nil => simp
  | cons hp _ ih => exact List.forall_mem_cons.2 ⟨hp.2 ▸ hp.1, ih⟩

/-- What holds of all parameters of a row holds of its values in the columns. -/
theorem Row.forall_bind_iff {row : Row} {columns : List Column} {ps : List Parameter}
    (h : row.bind columns = .ok ps) (P : String → Value → Prop) :
    (∀ p ∈ ps, P p.name p.value) ↔
      ∀ c ∈ columns, ∃ v, row.value c.name = .ok v ∧ P c.name v := by
  have hps := Row.bind_eq_ok_iff.1 h
  clear h
  induction hps with
  | nil => simp
  | cons hp _ ih =>
    obtain ⟨hv, hname⟩ := hp
    simp only [List.forall_mem_cons, ih, hv, ← hname, Except.ok.injEq, exists_eq_left']

namespace Table
variable {t : Table} {s : Statement}

/-- A write with the condition `c`, which tests columns for the values of the row. It is sure to find
the row just if each of these equals itself, and with a null among them it never does. -/
structure Addresses (t : Table) (row : Row) (columns : List Column) (s : Statement)
    (c : SqlFilter.Condition Test) : Prop where
  said : ∃ target, t.Target target ∧
    s.sql = target ++ " WHERE " ++ " AND ".intercalate (assignments columns)
  read : readCondition? (" AND ".intercalate (assignments columns)) s.parameters = some c
  bound : ∀ col ∈ columns, ∃ v, row.value col.name = .ok v ∧
    parameterValue? s.parameters col.name = some v
  found_iff : (∀ E : Equality, c.truth (row.judge E) = .holds) ↔
    ∀ col ∈ columns, ∃ v, row.value col.name = .ok v ∧ v.EqualsSelf
  missed (hnull : ∃ col ∈ columns, row.value col.name = .ok .null) (E : Equality) :
    c.truth (row.judge E) ≠ .holds

/-- The row meets the tests of its parameters just if each value is equal to itself. -/
theorem truth_judge_eq_holds_iff {row : Row} {ps : List Parameter} (hne : ps ≠ [])
    (hvalue : ∀ p ∈ ps, row.value p.name = .ok p.value) (E : Equality) :
    (Level.unite .and ((ps.map Parameter.equation).map .test)).truth (row.judge E) = .holds ↔
      ∀ p ∈ ps, E.test p.value p.value = .holds := by
  have htests : ps.map Parameter.equation ≠ [] := by simpa using hne
  have hjudge : ∀ p ∈ ps, row.judge E p.equation = E.test p.value p.value :=
    fun p hp => Row.judge_equation (hvalue p hp) E
  rw [← SqlFilter.Condition.truthOf_run _ .and, Level.run_unite_tests htests .and,
    SqlFilter.Condition.truthOf_and_eq_holds_iff]
  simp only [List.forall_mem_map, SqlFilter.Condition.truth]
  constructor
  · intro h p hp
    rw [← hjudge p hp]
    exact h p hp
  · intro h p hp
    rw [hjudge p hp]
    exact h p hp

section Usable
variable (ht : t.schema.Usable) {written : Except String Json}
include ht

theorem addresses_of_findsRow {p : Column → Bool}
    (h : t.FindsRow written (t.schema.columns.filter p) s)
    (hnodup : (s.parameters.map (·.name)).Nodup) :
    ∃ row c, Row.read t.name written = .ok row ∧
      t.Addresses row (t.schema.columns.filter p) s c := by
  obtain ⟨target, ps, htarget, hps, hsuffix, hsql⟩ := h
  have hne : ps ≠ [] := hps.ne_nil
  have hbound : ∀ q ∈ ps, parameterValue? s.parameters q.name = some q.value :=
    fun q hq => parameterValue?_of_mem hnodup (hsuffix.subset hq)
  have hread := hps.readCondition? ht hbound
  obtain ⟨-, row, hrow, hbind⟩ := hps
  have hvalue := Row.value_of_mem_bind hbind
  have hbound' := (Row.forall_bind_iff hbind fun name v =>
    parameterValue? s.parameters name = some v).1 hbound
  refine ⟨row, _, hrow, ⟨target, htarget, hsql⟩, hread, hbound', ?_, ?_⟩
  · -- equality holds of a value and itself, whichever it is, just if the value equals itself
    have hself : (∀ E : Equality, ∀ q ∈ ps, E.test q.value q.value = .holds) ↔
        ∀ q ∈ ps, q.value.EqualsSelf := by
      constructor
      · intro h q hq
        exact Value.equalsSelf_of_forall fun E => h E q hq
      · intro h E q hq
        exact E.self (h q hq)
    have hcolumns := Row.forall_bind_iff hbind fun _ v => v.EqualsSelf
    rw [← hcolumns, ← hself]
    exact forall_congr' fun E => truth_judge_eq_holds_iff hne hvalue E
  · rintro ⟨col, hcol, hnull⟩ E hholds
    have hall := (truth_judge_eq_holds_iff hne hvalue E).1 hholds
    obtain ⟨v, hv, htest⟩ :=
      (Row.forall_bind_iff hbind fun _ v => E.test v v = .holds).1 hall col hcol
    rw [hnull] at hv
    obtain rfl := Except.ok.inj hv
    rw [E.null_left] at htest
    simp at htest

end Usable

/-- An update or soft delete of a row compares all columns that are keys or matched with the row's
own values, and a delete compares all keys. So a write addresses its row just if each of these values
equals itself; a row with null in one of these columns is missed. -/
theorem row_addressed_iff {settings : Settings} (hsettings : settings.fault? = none)
    {entity : String} {schema : Schema} (hschema : settings.schema entity = .ok schema)
    (d : Dialect) (options : CompileOptions) (written : Except String Json) :
    let t : Table := ⟨schema, d, options⟩
    (∀ s, t.update written = .ok s ∨ t.softDelete written = .ok s →
      ∃ row c, Row.read t.name written = .ok row ∧
        t.Addresses row (schema.columns.filter fun c => c.isKey || c.inWhere) s c) ∧
      ∀ s, t.delete written = .ok s → ∃ row c, Row.read t.name written = .ok row ∧
        t.Addresses row (schema.columns.filter fun c => c.isKey) s c := by
  intro t
  have ht : t.schema.Usable := Settings.usable_of_schema hsettings hschema
  refine ⟨?_, ?_⟩
  · rintro s (hs | hs)
    · exact addresses_of_findsRow ht (findsRow_update hs) (closed_update ht hs).names_nodup
    · exact addresses_of_findsRow ht (findsRow_softDelete hs) (closed_softDelete ht hs).names_nodup
  · intro s hs
    exact addresses_of_findsRow ht (findsRow_delete hs) (closed_delete ht hs).names_nodup

theorem row_addressed_iff_whole :
    let schema : Schema := ⟨"Users",
      [.key "Id", .plain "Name", (Column.plain "Tenant").whereMatched true], some "Gone"⟩
    let settings : Settings := ⟨⟨true, true⟩, .sqlite, NameMap.empty.insert "User" schema⟩
    let t : Table := ⟨schema, .sqlite, ⟨true, true⟩⟩
    let matched : List Column := [.key "Id", (Column.plain "Tenant").whereMatched true]
    let fields : List (String × Json) :=
      [("Id", .int 1), ("Name", .null), ("Tenant", .text "acme")]
    let row : Row := ⟨"Users", fields⟩
    let update : Statement := ⟨"UPDATE Users SET Name = @Name WHERE Id = @Id AND Tenant = @Tenant",
      [⟨"Name", .null⟩, ⟨"Id", .int 1⟩, ⟨"Tenant", .text "acme"⟩]⟩
    let delete : Statement := ⟨"DELETE FROM Users WHERE Id = @Id", [⟨"Id", .int 1⟩]⟩
    settings.fault? = none ∧ settings.schema "User" = .ok schema ∧
      t.update (.ok (.object fields)) = .ok update ∧
      (∃ c, t.Addresses row matched update c ∧ ∀ E, c.truth (row.judge E) = .holds) ∧
      t.delete (.ok (.object fields)) = .ok delete ∧
      ∃ c, t.Addresses row [.key "Id"] delete c ∧ ∀ E, c.truth (row.judge E) = .holds := by
  intro schema settings t matched fields row update delete
  have hsettings : settings.fault? = none := by decide
  have hschema : settings.schema "User" = .ok schema := by decide
  have hupdate : t.update (.ok (.object fields)) = .ok update := by rfl
  have hdelete : t.delete (.ok (.object fields)) = .ok delete := by rfl
  obtain ⟨hmatches, hkeys⟩ :=
    row_addressed_iff hsettings hschema .sqlite ⟨true, true⟩ (.ok (.object fields))
  have hid : row.value "Id" = .ok (.int 1) := by rfl
  have htenant : row.value "Tenant" = .ok (.text "acme") := by rfl
  refine ⟨hsettings, hschema, hupdate, ?_, hdelete, ?_⟩
  · obtain ⟨row', c, hrow, hc⟩ := hmatches _ (Or.inl hupdate)
    obtain rfl := Except.ok.inj hrow
    refine ⟨c, hc, hc.found_iff.2 ?_⟩
    have hvalues : ∀ col ∈ matched, ∃ v, row.value col.name = .ok v ∧ v.EqualsSelf := by
      simp only [matched, List.forall_mem_cons]
      exact ⟨⟨_, hid, trivial⟩, ⟨_, htenant, trivial⟩, by simp⟩
    exact hvalues
  · obtain ⟨row', c, hrow, hc⟩ := hkeys _ hdelete
    obtain rfl := Except.ok.inj hrow
    refine ⟨c, hc, hc.found_iff.2 ?_⟩
    have hvalues : ∀ col ∈ [Column.key "Id"], ∃ v, row.value col.name = .ok v ∧ v.EqualsSelf := by
      simp only [List.forall_mem_singleton]
      exact ⟨_, hid, trivial⟩
    exact hvalues

/-- A row without a tenant is compared with null, and missed by the update that is to change it. -/
theorem row_missed_of_null :
    let schema : Schema := ⟨"Users",
      [.key "Id", .plain "Name", (Column.plain "Tenant").whereMatched true], none⟩
    let settings : Settings := ⟨⟨true, true⟩, .sqlite, NameMap.empty.insert "User" schema⟩
    let t : Table := ⟨schema, .sqlite, ⟨true, true⟩⟩
    let fields : List (String × Json) :=
      [("Id", .int 1), ("Name", .text "Ann"), ("Tenant", .null)]
    let update : Statement := ⟨"UPDATE Users SET Name = @Name WHERE Id = @Id AND Tenant = @Tenant",
      [⟨"Name", .text "Ann"⟩, ⟨"Id", .int 1⟩, ⟨"Tenant", .null⟩]⟩
    settings.fault? = none ∧ settings.schema "User" = .ok schema ∧
      t.update (.ok (.object fields)) = .ok update ∧
      ∃ c, readCondition? "Id = @Id AND Tenant = @Tenant" update.parameters = some c ∧
        ∀ E, c.truth (Row.judge E ⟨"Users", fields⟩) = .unknown := by
  intro schema settings t fields update
  have hupdate : t.update (.ok (.object fields)) = .ok update := by rfl
  let matched : List Parameter := [⟨"Id", .int 1⟩, ⟨"Tenant", .null⟩]
  have hident : ∀ p ∈ matched, isIdentifier p.name = true := by
    simp only [matched, List.forall_mem_cons]
    exact ⟨by decide, by decide, by simp⟩
  have hbound : ∀ p ∈ matched, parameterValue? update.parameters p.name = some p.value := by
    simp [matched, update, parameterValue?]
  have hread := readCondition?_assignments (List.cons_ne_nil _ _) hident hbound
  have htext : " AND ".intercalate (matched.map fun p => assignment p.name) =
      "Id = @Id AND Tenant = @Tenant" := by rfl
  rw [htext] at hread
  refine ⟨by decide, by decide, hupdate, _, hread, ?_⟩
  intro E
  -- the key is found, but nothing is equal to null
  have hid : E.test (.int 1) (.int 1) = .holds := E.self trivial
  have htenant : E.test .null .null = .unknown := E.null_left .null
  have htruth : (Level.unite .and ((matched.map Parameter.equation).map .test)).truth
      (Row.judge E ⟨"Users", fields⟩) =
        (E.test (.int 1) (.int 1)).and ((E.test .null .null).and .holds) := by rfl
  rw [htruth, hid, htenant]
  rfl

end Table
end SqlFilter
