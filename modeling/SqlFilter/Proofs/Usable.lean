import Mathlib.Data.List.Nodup
import SqlFilter.Command.Statement
/-! Schemas that pass the check of settings. Their names can stand in SQL text as they are, and no
two columns share one. -/
namespace SqlFilter

namespace Schema

structure Usable (s : Schema) : Prop where
  table_dotted : isDottedIdentifier s.tableName = true
  columns_ne_nil : s.columns ≠ []
  columns_identifier : ∀ c ∈ s.columns, isIdentifier c.name = true
  columns_nodup : (s.columns.map (·.name)).Nodup
  flag_identifier : ∀ flag ∈ s.softDeleteColumn, isIdentifier flag = true

theorem columnFault?_eq_none_iff (seen : List String) (cs : List Column) :
    columnFault? seen cs = none ↔
      (∀ c ∈ cs, isIdentifier c.name = true) ∧ (cs.map (·.name)).Nodup ∧
        ∀ c ∈ cs, c.name ∉ seen := by
  fun_induction columnFault? seen cs with
  | case1 seen => simp
  | case2 seen c cs hname => simp_all
  | case3 seen c cs hname hseen => simp_all
  | case4 seen c cs hname hseen ih =>
    -- a name that is new to the rest is neither seen before nor that of this column
    simp only [Bool.not_eq_true', Bool.not_eq_false] at hname
    rw [ih, List.forall_mem_cons, List.forall_mem_cons, List.map_cons, List.nodup_cons]
    simp only [List.contains_eq_mem, decide_eq_true_eq] at hseen
    simp only [List.mem_cons, not_or, List.mem_map, not_exists, not_and]
    constructor
    · rintro ⟨hident, hnodup, hnew⟩
      exact ⟨⟨hname, hident⟩, ⟨fun d hd => (hnew d hd).1, hnodup⟩, hseen, fun d hd => (hnew d hd).2⟩
    · rintro ⟨⟨-, hident⟩, ⟨hne, hnodup⟩, -, hnew⟩
      exact ⟨hident, hnodup, fun d hd => ⟨hne d hd, hnew d hd⟩⟩

theorem softDeleteFault?_eq_none_iff (s : Schema) :
    s.softDeleteFault? = none ↔ ∀ flag ∈ s.softDeleteColumn, isIdentifier flag = true := by
  unfold softDeleteFault?
  cases s.softDeleteColumn with
  | none => simp
  | some flag => simp

theorem fault?_eq_none_iff (s : Schema) : s.fault? = none ↔ s.Usable := by
  unfold fault?
  split
  · rename_i hname
    simp only [reduceCtorEq, false_iff]
    intro hs
    simp [hs.table_dotted] at hname
  · rename_i hname
    split
    · rename_i hcolumns
      simp only [reduceCtorEq, false_iff]
      intro hs
      exact hs.columns_ne_nil (List.isEmpty_iff.1 hcolumns)
    · rename_i hcolumns
      rw [Option.or_eq_none_iff, columnFault?_eq_none_iff, softDeleteFault?_eq_none_iff]
      simp only [Bool.not_eq_true', Bool.not_eq_false] at hname
      constructor
      · rintro ⟨⟨hident, hnodup, -⟩, hflag⟩
        exact ⟨hname, by simpa using hcolumns, hident, hnodup, hflag⟩
      · intro hs
        exact ⟨⟨hs.columns_identifier, hs.columns_nodup, by simp⟩, hs.flag_identifier⟩

/-- A column that an update matches has another name than all that it sets. -/
theorem name_notMem_updateColumns {s : Schema} (hnames : (s.columns.map (·.name)).Nodup) {c : Column}
    (hc : c ∈ s.columns) (hmatched : c.isKey ∨ c.inWhere) :
    c.name ∉ s.updateColumns.map (·.name) := by
  intro hname
  obtain ⟨d, hd, hname⟩ := List.mem_map.1 hname
  obtain ⟨hd, hset⟩ := List.mem_filter.1 hd
  obtain rfl := List.inj_on_of_nodup_map hnames hd hc hname
  rcases hmatched with h | h
  · simp [h] at hset
  · simp [h] at hset

namespace Usable
variable {s : Schema} (hs : s.Usable)
include hs

theorem isIdentifier_of_hasColumn {name : String} (h : s.hasColumn name = true) :
    isIdentifier name = true := by
  obtain ⟨c, hc, rfl⟩ := (s.hasColumn_iff name).1 h
  exact hs.columns_identifier c hc

/-- The columns of any use have identifiers as names, each another one. -/
theorem filter_columns (p : Column → Bool) :
    (∀ c ∈ s.columns.filter p, isIdentifier c.name = true) ∧
      ((s.columns.filter p).map (·.name)).Nodup :=
  ⟨fun c hc => hs.columns_identifier c (List.mem_filter.1 hc).1,
    (List.filter_sublist.map _).nodup hs.columns_nodup⟩

/-- What an update sets is never what it matches. -/
theorem nodup_names_update :
    ((s.updateColumns ++ s.whereColumns).map (·.name)).Nodup := by
  have hdisjoint : ∀ d ∈ s.whereColumns, d.name ∉ s.updateColumns.map (·.name) := by
    intro d hd
    obtain ⟨hd, hmatched⟩ := List.mem_filter.1 hd
    exact name_notMem_updateColumns hs.columns_nodup hd (by simpa using hmatched)
  rw [List.map_append, List.nodup_append]
  refine ⟨(hs.filter_columns _).2, (hs.filter_columns _).2, ?_⟩
  intro name hname name' hname'
  obtain ⟨d, hd, rfl⟩ := List.mem_map.1 hname'
  rintro rfl
  exact hdisjoint d hd hname

end Usable
end Schema

namespace Settings

theorem fault?_eq_none_iff (s : Settings) :
    s.fault? = none ↔ ∀ e ∈ s.schemas.entries, e.2.Usable := by
  simp only [fault?, List.findSome?_eq_none_iff, Option.map_eq_none_iff,
    Schema.fault?_eq_none_iff]

/-- Settings that were checked hold usable schemas only. -/
theorem usable_of_schema {s : Settings} (hs : s.fault? = none) {entity : String} {schema : Schema}
    (h : s.schema entity = .ok schema) : schema.Usable := by
  unfold Settings.schema at h
  split at h
  · rename_i found hfound
    obtain rfl := Except.ok.inj h
    obtain ⟨before, after, hentries, -⟩ := List.lookup_eq_some_iff.1 hfound
    have hmem : (entity, found) ∈ s.registry.entries := by simp [hentries]
    exact (fault?_eq_none_iff s).1 hs _ hmem
  · simp at h

end Settings
end SqlFilter
