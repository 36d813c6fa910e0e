import SqlFilter.NameMap
/-! How records map to tables. -/
namespace SqlFilter

/-- A column, with the statements that it takes part in. `inWhere` adds it to the key columns where
rows are matched. -/
structure Column where
  name : String
  isKey : Bool
  inSelect : Bool
  inInsert : Bool
  inUpdate : Bool
  inWhere : Bool
deriving DecidableEq, Repr, Inhabited

namespace Column

/-- A column of values. -/
def plain (name : String) : Column :=
  ⟨name, false, true, true, true, false⟩

/-- A key, which the database makes up and no row inserts. -/
def key (name : String) : Column :=
  ⟨name, true, true, false, true, false⟩

/-- A column that no statement reads or writes. -/
def ignored (name : String) : Column :=
  ⟨name, false, false, false, false, false⟩

def insertable (c : Column) (b : Bool) : Column := { c with inInsert := b }
def updatable (c : Column) (b : Bool) : Column := { c with inUpdate := b }
def selectable (c : Column) (b : Bool) : Column := { c with inSelect := b }
def whereMatched (c : Column) (b : Bool) : Column := { c with inWhere := b }

end Column

/-- A table with its columns in order, and the column that flags a row as deleted, if there is
one. -/
structure Schema where
  tableName : String
  columns : List Column
  softDeleteColumn : Option String
deriving DecidableEq, Repr, Inhabited

namespace Schema

def column? (s : Schema) (name : String) : Option Column :=
  s.columns.find? (·.name == name)

def hasColumn (s : Schema) (name : String) : Bool :=
  (s.column? name).isSome

def selectColumns (s : Schema) : List Column :=
  s.columns.filter (·.inSelect)

def insertColumns (s : Schema) : List Column :=
  s.columns.filter (·.inInsert)

/-- The columns that an update sets. Those that it matches are never set. -/
def updateColumns (s : Schema) : List Column :=
  s.columns.filter fun c => c.inUpdate && !c.isKey && !c.inWhere

def keyColumns (s : Schema) : List Column :=
  s.columns.filter (·.isKey)

/-- The columns that an update and a soft delete match. -/
def whereColumns (s : Schema) : List Column :=
  s.columns.filter fun c => c.isKey || c.inWhere

theorem hasColumn_iff (s : Schema) (name : String) :
    s.hasColumn name = true ↔ ∃ c ∈ s.columns, c.name = name := by
  simp [hasColumn, column?]

end Schema

/-- Schemas under the names of their entities. Registries are values: a registration gives the next
one, where a program changes a table that its parts share under a lock. -/
abbrev Registry := NameMap Schema

namespace Registry

/-- Sets the schema of a name, and tells which one it replaces. -/
def register (r : Registry) (name : String) (s : Schema) : Option Schema × Registry :=
  (r.find? name, r.insert name s)

end Registry
end SqlFilter
