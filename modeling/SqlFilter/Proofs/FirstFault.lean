import SqlFilter.Proofs.Identifier
import SqlFilter.Proofs.NameMap
import SqlFilter.Proofs.Usable
import SqlFilter.Settings.ConfigFile
/-! What the check of settings refuses, and what it says. Names are told by their characters, a schema
by the first thing that is wrong with it, and settings by the first schema that is not in order. -/
namespace SqlFilter

/-- A letter of ASCII, or an underscore. -/
def IsNameStart (c : Char) : Prop :=
  'A' ≤ c ∧ c ≤ 'Z' ∨ 'a' ≤ c ∧ c ≤ 'z' ∨ c = '_'

/-- A letter or an underscore, and behind it letters, underscores and digits, all of them of ASCII. -/
def IsName (s : String) : Prop :=
  ∃ c cs, s.toList = c :: cs ∧ IsNameStart c ∧ ∀ d ∈ cs, IsNameStart d ∨ '0' ≤ d ∧ d ≤ '9'

/-- One name, or more with dots between them. -/
def IsTableName (s : String) : Prop :=
  ∃ names, names ≠ [] ∧ (∀ name ∈ names, IsName name) ∧ s = ".".intercalate names

theorem isIdentifierStart_iff (c : Char) : isIdentifierStart c = true ↔ IsNameStart c := by
  have halpha : c.isAlpha =
      (decide ('A' ≤ c ∧ c ≤ 'Z') || decide ('a' ≤ c) && decide (c ≤ 'z')) := rfl
  simp [isIdentifierStart, IsNameStart, halpha, or_assoc]

theorem isIdentifierChar_iff (c : Char) :
    isIdentifierChar c = true ↔ IsNameStart c ∨ '0' ≤ c ∧ c ≤ '9' := by
  have hdigit : c.isDigit = (decide ('0' ≤ c) && decide (c ≤ '9')) := rfl
  rw [← isIdentifierStart_iff]
  simp [isIdentifierStart, isIdentifierChar, Char.isAlphanum, hdigit, or_right_comm]

theorem isIdentifier_iff (s : String) : isIdentifier s = true ↔ IsName s := by
  unfold isIdentifier IsName
  cases s.toList with
  | nil => simp
  | cons c cs =>
    simp only [Bool.and_eq_true, isIdentifierStart_iff, List.all_eq_true, isIdentifierChar_iff,
      List.cons.injEq]
    simp

theorem isDottedIdentifier_iff (s : String) : isDottedIdentifier s = true ↔ IsTableName s := by
  simp only [isDottedIdentifier, List.all_eq_true]
  constructor
  · intro h
    exact ⟨dottedSegments s, dottedSegments_ne_nil s, fun name hname =>
      (isIdentifier_iff name).1 (h name hname), (intercalate_dottedSegments s).symm⟩
  · rintro ⟨names, hne, hnames, rfl⟩
    have hsegments (name) (hname : name ∈ names) := (isIdentifier_iff name).2 (hnames name hname)
    rwa [dottedSegments_intercalate hne, flatMap_dottedSegments_of_isIdentifier hsegments]

namespace Schema

/-- All columns have names, each another one. -/
structure Distinguished (cs : List Column) : Prop where
  isName : ∀ c ∈ cs, IsName c.name
  nodup : (cs.map (·.name)).Nodup

/-- A schema with nothing wrong. -/
structure InOrder (s : Schema) : Prop where
  table : IsTableName s.tableName
  columns_ne_nil : s.columns ≠ []
  columns : Distinguished s.columns
  flag : ∀ flag ∈ s.softDeleteColumn, IsName flag

/-- What is wrong with a column that comes after some names. -/
inductive ColumnFault (earlier : List String) (c : Column) : SchemaFault → Prop
  | badName (h : ¬IsName c.name) : ColumnFault earlier c (.badColumnName c.name)
  | repeated (isName : IsName c.name) (h : c.name ∈ earlier) :
      ColumnFault earlier c (.repeatedColumn c.name)

/-- What is wrong first: with the table, with having no column at all, with the first column that is
not in order after those before it, with the column of the flag. -/
inductive FirstFault (s : Schema) : SchemaFault → Prop
  | table (h : ¬IsTableName s.tableName) : FirstFault s (.badTableName s.tableName)
  | noColumns (table : IsTableName s.tableName) (h : s.columns = []) : FirstFault s .noColumns
  | column {before after : List Column} {c : Column} {fault : SchemaFault}
      (table : IsTableName s.tableName) (split : s.columns = before ++ c :: after)
      (hbefore : Distinguished before) (h : ColumnFault (before.map (·.name)) c fault) :
      FirstFault s fault
  | flag {flag : String} (table : IsTableName s.tableName) (columns_ne_nil : s.columns ≠ [])
      (columns : Distinguished s.columns) (hflag : s.softDeleteColumn = some flag)
      (h : ¬IsName flag) : FirstFault s (.badSoftDeleteColumn flag)

theorem columnFault?_nil_eq_none_iff (cs : List Column) :
    columnFault? [] cs = none ↔ Distinguished cs := by
  rw [columnFault?_eq_none_iff]
  simp only [isIdentifier_iff]
  constructor
  · rintro ⟨hnames, hnodup, -⟩
    exact ⟨hnames, hnodup⟩
  · intro h
    exact ⟨h.isName, h.nodup, fun c _ => List.not_mem_nil⟩

theorem ColumnFault.mono {earlier earlier' : List String} {c : Column} {fault : SchemaFault}
    (h : ColumnFault earlier c fault) (hsub : earlier ⊆ earlier') : ColumnFault earlier' c fault := by
  cases h with
  | badName h => exact .badName h
  | repeated isName h => exact .repeated isName (hsub h)

/-- Columns that are in order only make their names known to those behind them. -/
theorem columnFault?_append {seen : List String} {before : List Column}
    (hbefore : columnFault? seen before = none) (cs : List Column) :
    columnFault? seen (before ++ cs) =
      columnFault? ((before.map (·.name)).reverse ++ seen) cs := by
  fun_induction columnFault? seen before with
  | case1 seen => rfl
  | case2 | case3 => simp at hbefore
  | case4 seen c before hname hseen ih =>
    rw [List.cons_append, columnFault?, if_neg hname, if_neg hseen, ih hbefore, List.map_cons,
      List.reverse_cons, List.append_assoc, List.singleton_append]

theorem ColumnFault.columnFault?_cons {seen : List String} {c : Column} {fault : SchemaFault}
    (h : ColumnFault seen c fault) (cs : List Column) :
    columnFault? seen (c :: cs) = some fault := by
  cases h with
  | badName h => simp [columnFault?, mt (isIdentifier_iff c.name).1 h]
  | repeated isName h => simp [columnFault?, (isIdentifier_iff c.name).2 isName, h]

theorem columnFault?_eq_some_iff (seen : List String) (cs : List Column) (fault : SchemaFault) :
    columnFault? seen cs = some fault ↔ ∃ before c after, cs = before ++ c :: after ∧
      columnFault? seen before = none ∧ ColumnFault (before.map (·.name) ++ seen) c fault := by
  constructor
  · intro h
    fun_induction columnFault? seen cs with
    | case1 => simp at h
    | case2 seen c cs hname =>
      obtain rfl := Option.some.inj h
      exact ⟨[], c, cs, rfl, rfl, .badName (mt (isIdentifier_iff c.name).2 (by simpa using hname))⟩
    | case3 seen c cs hname hseen =>
      obtain rfl := Option.some.inj h
      exact ⟨[], c, cs, rfl, rfl,
        .repeated ((isIdentifier_iff c.name).1 (by simpa using hname)) (by simpa using hseen)⟩
    | case4 seen c cs hname hseen ih =>
      obtain ⟨before, d, after, rfl, hbefore, hd⟩ := ih h
      refine ⟨c :: before, d, after, rfl, ?_, hd.mono List.perm_middle.subset⟩
      rw [columnFault?, if_neg hname, if_neg hseen, hbefore]
  · rintro ⟨before, c, after, rfl, hbefore, h⟩
    have hseen := ((before.map (·.name)).reverse_perm.symm.append_right seen).subset
    rw [columnFault?_append hbefore, (h.mono hseen).columnFault?_cons]

theorem columnFault?_nil_eq_some_iff (cs : List Column) (fault : SchemaFault) :
    columnFault? [] cs = some fault ↔ ∃ before c after, cs = before ++ c :: after ∧
      Distinguished before ∧ ColumnFault (before.map (·.name)) c fault := by
  simp only [columnFault?_eq_some_iff, columnFault?_nil_eq_none_iff, List.append_nil]

theorem softDeleteFault?_eq_some_iff (s : Schema) (fault : SchemaFault) :
    s.softDeleteFault? = some fault ↔ ∃ flag, s.softDeleteColumn = some flag ∧ ¬IsName flag ∧
      fault = .badSoftDeleteColumn flag := by
  unfold softDeleteFault?
  cases s.softDeleteColumn with
  | none => simp
  | some flag =>
    by_cases h : IsName flag
    · simp [(isIdentifier_iff flag).2 h, h]
    · simp [mt (isIdentifier_iff flag).1 h, h, @eq_comm _ fault]

theorem fault?_eq_none_iff_inOrder (s : Schema) : s.fault? = none ↔ s.InOrder := by
  rw [fault?_eq_none_iff]
  constructor
  · rintro ⟨htable, hne, hnames, hnodup, hflag⟩
    exact ⟨(isDottedIdentifier_iff _).1 htable, hne,
      ⟨fun c hc => (isIdentifier_iff _).1 (hnames c hc), hnodup⟩,
      fun flag h => (isIdentifier_iff _).1 (hflag flag h)⟩
  · rintro ⟨htable, hne, ⟨hnames, hnodup⟩, hflag⟩
    exact ⟨(isDottedIdentifier_iff _).2 htable, hne,
      fun c hc => (isIdentifier_iff _).2 (hnames c hc), hnodup,
      fun flag h => (isIdentifier_iff _).2 (hflag flag h)⟩

theorem fault?_eq_some_iff (s : Schema) (fault : SchemaFault) :
    s.fault? = some fault ↔ s.FirstFault fault := by
  unfold fault?
  by_cases htable : IsTableName s.tableName
  · rw [if_neg (by simpa using (isDottedIdentifier_iff _).2 htable)]
    by_cases hnone : s.columns = []
    · rw [if_pos (List.isEmpty_iff.2 hnone), Option.some.injEq]
      constructor
      · rintro rfl
        exact .noColumns htable hnone
      · intro h
        cases h with
        | table h => exact absurd htable h
        | noColumns => rfl
        | column _ split => simp [hnone] at split
        | flag _ hne => exact absurd hnone hne
    · rw [if_neg (mt List.isEmpty_iff.1 hnone), Option.or_eq_some_iff, columnFault?_nil_eq_none_iff,
        columnFault?_nil_eq_some_iff, softDeleteFault?_eq_some_iff]
      constructor
      · rintro (⟨before, c, after, split, hbefore, h⟩ | ⟨hcolumns, flag, hflag, h, rfl⟩)
        · exact .column htable split hbefore h
        · exact .flag htable hnone hcolumns hflag h
      · intro h
        cases h with
        | table h => exact absurd htable h
        | noColumns _ h => exact absurd h hnone
        | column _ split hbefore h => exact Or.inl ⟨_, _, _, split, hbefore, h⟩
        | flag _ _ hcolumns hflag h => exact Or.inr ⟨hcolumns, _, hflag, h, rfl⟩
  · rw [if_pos (by simpa using mt (isDottedIdentifier_iff _).1 htable), Option.some.injEq]
    constructor
    · rintro rfl
      exact .table htable
    · intro h
      cases h with
      | table => rfl
      | noColumns h | column h | flag h => exact absurd h htable

end Schema

namespace Settings

theorem fault?_eq_some_iff (s : Settings) (name : String) (fault : SchemaFault) :
    s.fault? = some (name, fault) ↔ ∃ schema, s.schemas.find? name = some schema ∧
      schema.FirstFault fault ∧
        ∀ earlier other, s.schemas.find? earlier = some other → earlier < name → other.InOrder := by
  simp only [fault?, List.findSome?_eq_some_iff, Option.map_eq_none_iff, Option.map_eq_some_iff,
    Prod.mk.injEq, Schema.fault?_eq_some_iff, Schema.fault?_eq_none_iff_inOrder]
  constructor
  · rintro ⟨before, ⟨_, schema⟩, after, hsplit, ⟨_, h, rfl, rfl⟩, hbefore⟩
    refine ⟨schema, NameMap.mem_entries_iff.1 (by simp [hsplit]), h, ?_⟩
    exact (NameMap.forall_before_iff hsplit).1 hbefore
  · rintro ⟨schema, hfound, h, hbefore⟩
    obtain ⟨before, after, hsplit⟩ := List.append_of_mem (NameMap.mem_entries_iff.2 hfound)
    exact ⟨before, (name, schema), after, hsplit, ⟨fault, h, rfl, rfl⟩,
      (NameMap.forall_before_iff hsplit).2 hbefore⟩

theorem fault?_eq_none_iff_inOrder (s : Settings) : s.fault? = none ↔
    ∀ name schema, s.schemas.find? name = some schema → schema.InOrder := by
  simp only [fault?, List.findSome?_eq_none_iff, Option.map_eq_none_iff,
    Schema.fault?_eq_none_iff_inOrder, ← NameMap.mem_entries_iff]
  exact ⟨fun h name schema => h (name, schema), fun h e => h e.1 e.2⟩

/-- Settings pass the check as they are just if all their schemas are in order. Otherwise the error is
about the first name whose schema is not, and tells what is wrong first with that schema. -/
theorem checked_settled (s : Settings) :
    (∀ s', s.checked = .ok s' ↔ s' = s ∧
      ∀ name schema, s.schemas.find? name = some schema → schema.InOrder) ∧
    ∀ x, s.checked = .error x ↔ ∃ name schema fault, x = .unusableSchema name fault ∧
      s.schemas.find? name = some schema ∧ schema.FirstFault fault ∧
        ∀ earlier other, s.schemas.find? earlier = some other → earlier < name →
          other.InOrder := by
  rw [← fault?_eq_none_iff_inOrder]
  unfold checked
  cases hfault : s.fault? with
  | none =>
    refine ⟨fun s' => by simp [eq_comm], fun x => ?_⟩
    simp only [reduceCtorEq, false_iff]
    rintro ⟨name, schema, fault, -, h⟩
    simp [(fault?_eq_some_iff s name fault).2 ⟨schema, h⟩] at hfault
  | some e =>
    obtain ⟨name, fault⟩ := e
    obtain ⟨schema, h⟩ := (fault?_eq_some_iff s name fault).1 hfault
    refine ⟨fun s' => by simp, fun x => ?_⟩
    constructor
    · rintro ⟨⟩
      exact ⟨name, schema, fault, rfl, h⟩
    · rintro ⟨name', schema', fault', rfl, h'⟩
      -- there is no other fault to tell
      have hsame := (fault?_eq_some_iff s name' fault').2 ⟨schema', h'⟩
      rw [hfault] at hsame
      cases hsame
      rfl

/-- Of two schemas out of order the one of the lesser name is told, and of it the column that repeats
a name before the one that has none. -/
example :
    let s : Settings := ⟨.default, .sqlite, .ofList [("user", ⟨"Bad Table", [], none⟩),
      ("order", ⟨"dbo.Orders", [.key "Id", .plain "Id", .plain "1"], some "a;b"⟩)]⟩
    s.fault? = some ("order", .repeatedColumn "Id") := by decide

end Settings
end SqlFilter
