import SqlFilter.Proofs.Statement.Closed
/-! Setting columns of the rows that meet a predicate. The parameter of a set column has the name of
the column. A parameter of the predicate may have it too, and of the two the set column is first. -/
namespace SqlFilter

theorem parameterValue?_append (ps qs : List Parameter) (name : String) :
    parameterValue? (ps ++ qs) name = (parameterValue? ps name).or (parameterValue? qs name) := by
  simp only [parameterValue?, List.find?_append, Option.map_or]

/-- The columns that are set, as parameters of the same names. -/
def setParameters (values : List (String × Value)) : List Parameter :=
  values.map fun v => ⟨v.1, v.2⟩

theorem names_setParameters (values : List (String × Value)) :
    (setParameters values).map (·.name) = values.map Prod.fst := by
  simp [setParameters]

theorem parameterValue?_setParameters (values : List (String × Value)) (name : String) :
    parameterValue? (setParameters values) name = values.lookup name := by
  induction values with
  | nil => rfl
  | cons v values ih =>
    obtain ⟨column, value⟩ := v
    have hcons : setParameters ((column, value) :: values) =
        ⟨column, value⟩ :: setParameters values := rfl
    rw [hcons, List.lookup_cons]
    by_cases hname : column = name
    · simp [parameterValue?, hname]
    · have hne : (name == column) = false := by simpa using Ne.symm hname
      rw [hne]
      simpa [parameterValue?, hname] using ih

/-- The value of a parameter beside set columns: that of the set column of its name, if there is
one. -/
def valueBeside (values : List (String × Value)) (p : Parameter) : Value :=
  (values.lookup p.name).getD p.value

section SetColumns
variable {values : List (String × Value)} (hvalues : (values.map Prod.fst).Nodup)
include hvalues

theorem lookup_of_mem_setParameters {p : Parameter} (hp : p ∈ setParameters values) :
    values.lookup p.name = some p.value := by
  rw [← names_setParameters] at hvalues
  rw [← parameterValue?_setParameters]
  exact parameterValue?_of_mem hvalues hp

/-- Set columns keep their values. -/
theorem map_valueBeside_setParameters :
    (setParameters values).map (fun p => ⟨p.name, valueBeside values p⟩) =
      setParameters values := by
  refine (List.map_congr_left ?_).trans (List.map_id _)
  intro p hp
  rw [valueBeside, lookup_of_mem_setParameters hvalues hp, Option.getD_some, id]

/-- Under its name the first parameter is found, and set columns stand first. -/
theorem parameterValue?_beside {qs : List Parameter} (hqs : (qs.map (·.name)).Nodup) :
    ∀ p ∈ setParameters values ++ qs,
      parameterValue? (setParameters values ++ qs) p.name = some (valueBeside values p) := by
  intro p hp
  rw [parameterValue?_append, parameterValue?_setParameters, valueBeside]
  rcases List.mem_append.1 hp with hp | hp
  · rw [lookup_of_mem_setParameters hvalues hp, Option.some_or, Option.getD_some]
  · rw [parameterValue?_of_mem hqs hp]
    cases values.lookup p.name with
    | none => rfl
    | some v => rfl

theorem nodup_names_beside_iff {qs : List Parameter} (hqs : (qs.map (·.name)).Nodup) :
    ((setParameters values ++ qs).map (·.name)).Nodup ↔
      ∀ p ∈ qs, p.name ∉ values.map Prod.fst := by
  rw [List.map_append, names_setParameters, List.nodup_append]
  constructor
  · rintro ⟨-, -, hdisjoint⟩ p hp hmem
    exact hdisjoint p.name hmem p.name (List.mem_map_of_mem hp) rfl
  · intro hfree
    refine ⟨hvalues, hqs, ?_⟩
    rintro column hcolumn name hname rfl
    obtain ⟨p, hp, rfl⟩ := List.mem_map.1 hname
    exact hfree p hp hcolumn

end SetColumns

namespace Table
variable {t : Table} {s : Statement} {values : List (String × Value)} {e : Expr}

theorem isTemplated_updateColumns (ht : t.schema.Usable) (h : t.updateColumns values e = .ok s) :
    s.query.IsTemplated := by
  obtain ⟨hvalues, c, hc, rfl⟩ := updateColumns_eq_ok h
  have hcomma : IsSeparator ", " := by decide
  have hwhere : IsSeparator " WHERE " := by decide
  have hopening := isPlain_update_opening ht
  have hassigned : (⟨", ".intercalate ((setParameters values).map fun p => assignment p.name),
      setParameters values⟩ : Query).IsTemplated := by
    refine Query.isTemplated_intercalate hcomma ?_
    intro p hp
    have hname : p.name ∈ values.map Prod.fst := by
      rw [← names_setParameters]
      exact List.mem_map_of_mem hp
    exact Query.isTemplated_assignment (ht.isIdentifier_of_hasColumn (hvalues.declared _ hname))
  have hall := (hassigned.after hopening).join (isTemplated_condition hc) hwhere
  simpa [setParameters, Statement.query, Function.comp_def] using hall

/-- A statement that sets columns binds them to the values supplied for them. The references of the
predicate are bound to their own values under names of their own just if no set column has the name
of one of them. -/
theorem updateColumns_bound_iff {settings : Settings} (hsettings : settings.fault? = none)
    {entity : String} {schema : Schema} (hschema : settings.schema entity = .ok schema)
    {d : Dialect} {options : CompileOptions} {values : List (String × Value)}
    (hvalues : (values.map Prod.fst).Nodup) {e : Expr} {s : Statement}
    (h : updateColumns ⟨schema, d, options⟩ values e = .ok s) :
    ∃ q, Compiler.compile ⟨options, some schema⟩ e = .ok q ∧
      s.parameters = setParameters values ++ q.parameters ∧
      references s.sql.toList = s.parameters.map (·.name) ∧
      (∀ d', s.Binds d' (setParameters values ++
        q.parameters.map fun p => ⟨p.name, valueBeside values p⟩)) ∧
      (((s.parameters.map (·.name)).Nodup ∧ ∀ d', s.Binds d' s.parameters) ↔
        ∀ p ∈ q.parameters, p.name ∉ values.map Prod.fst) := by
  have ht := Settings.usable_of_schema hsettings hschema
  have htemplated := isTemplated_updateColumns (t := ⟨schema, d, options⟩) ht h
  obtain ⟨-, c, hc, hs⟩ := updateColumns_eq_ok h
  have hcompile : Compiler.compile ⟨options, some schema⟩ e = .ok c.query := compile_of_condition hc
  have hnames := nodup_names_condition hc
  have hparameters : s.parameters = setParameters values ++ c.query.parameters := by
    rw [hs]
    rfl
  refine ⟨c.query, hcompile, hparameters, Statement.references_of_isTemplated htemplated, ?_, ?_⟩
  · intro d'
    have hfound := parameterValue?_beside hvalues hnames
    rw [← hparameters] at hfound
    have hbinds := Statement.binds_of_isTemplated htemplated d' hfound
    rwa [hparameters, List.map_append, map_valueBeside_setParameters hvalues] at hbinds
  · have hfree := nodup_names_beside_iff hvalues hnames
    rw [← hparameters] at hfree
    rw [← hfree]
    exact ⟨And.left, fun h => ⟨h, Statement.binds_of_nodup htemplated h⟩⟩

theorem updateColumns_bound_of_age :
    let schema : Schema := ⟨"Users", [.plain "Age", .plain "Name"], none⟩
    let settings : Settings := ⟨⟨false, true⟩, .sqlite, NameMap.empty.insert "User" schema⟩
    let t : Table := ⟨schema, .sqlite, ⟨false, true⟩⟩
    let values : List (String × Value) := [("Age", .int 41)]
    let e : Expr := .binary .eq (.field "Name") (.constant (.text "Ann"))
    let s : Statement := ⟨"UPDATE Users SET Age = @Age WHERE Name = @Name_p0",
      [⟨"Age", .int 41⟩, ⟨"Name_p0", .text "Ann"⟩]⟩
    settings.fault? = none ∧ settings.schema "User" = .ok schema ∧
      (values.map Prod.fst).Nodup ∧ t.updateColumns values e = .ok s ∧
      (s.parameters.map (·.name)).Nodup ∧ ∀ d, s.Binds d s.parameters := by
  intro schema settings t values e s
  have hsettings : settings.fault? = none := by decide
  have hschema : settings.schema "User" = .ok schema := by decide
  have hvalues : (values.map Prod.fst).Nodup := by decide
  have hs : t.updateColumns values e = .ok s := by
    simp only [t, schema, values, e, s]
    rfl
  refine ⟨hsettings, hschema, hvalues, hs, ?_⟩
  obtain ⟨q, -, hparameters, -, -, hiff⟩ := updateColumns_bound_iff hsettings hschema hvalues hs
  have hbound : setParameters values ++ [⟨"Name_p0", .text "Ann"⟩] =
      setParameters values ++ q.parameters := hparameters
  have hq := List.append_cancel_left hbound
  refine hiff.2 ?_
  intro p hp
  rw [← hq, List.mem_singleton] at hp
  rw [hp]
  decide

/-- The column `Age_p0` takes the place of the value that `Age` is compared with. -/
theorem updateColumns_not_bound :
    let schema : Schema := ⟨"Users", [.plain "Age", .plain "Age_p0"], none⟩
    let settings : Settings := ⟨⟨false, true⟩, .sqlite, NameMap.empty.insert "User" schema⟩
    let t : Table := ⟨schema, .sqlite, ⟨false, true⟩⟩
    let e : Expr := .binary .eq (.field "Age") (.constant (.int 3))
    let s : Statement := ⟨"UPDATE Users SET Age_p0 = @Age_p0 WHERE Age = @Age_p0",
      [⟨"Age_p0", .int 5⟩, ⟨"Age_p0", .int 3⟩]⟩
    settings.fault? = none ∧ settings.schema "User" = .ok schema ∧
      t.updateColumns [("Age_p0", .int 5)] e = .ok s ∧
      ¬(s.parameters.map (·.name)).Nodup ∧ ¬s.Binds .sqlite s.parameters ∧
      s.toPositional .sqlite =
        .ok ⟨"UPDATE Users SET Age_p0 = ? WHERE Age = ?", [.int 5, .int 5]⟩ := by
  intro schema settings t e s
  have hs : t.updateColumns [("Age_p0", .int 5)] e = .ok s := by
    simp only [t, schema, e, s]
    rfl
  have hpositional : s.toPositional .sqlite =
      .ok ⟨"UPDATE Users SET Age_p0 = ? WHERE Age = ?", [.int 5, .int 5]⟩ := by
    simp only [s]
    rfl
  refine ⟨by decide, by decide, hs, by decide, ?_, hpositional⟩
  intro hbinds
  obtain ⟨p, hp, hvalues⟩ := hbinds.values_eq
  rw [hpositional] at hp
  obtain rfl := Except.ok.inj hp
  simp [s, Positional.elements] at hvalues

end Table
end SqlFilter
