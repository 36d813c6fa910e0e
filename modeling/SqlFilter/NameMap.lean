/-! Finite maps from names, kept in ascending order of the names. The order of strings is by code
point, which is also the order of their UTF-8 bytes.

The schemas of a program stand in a tree sorted by name while they are settings, and in a hash table
while they are registered, whose names are sorted each time they are listed. Here one kind of map
stands for both: nothing but the listing shows the order of a table, so the two tell the same. -/
namespace SqlFilter

/-- A list of named entries in strictly ascending order of name, so each name occurs once. -/
structure NameMap (α : Type) where
  entries : List (String × α)
  sorted : entries.Pairwise (fun a b => a.1 < b.1)
deriving DecidableEq

namespace NameMap
variable {α : Type}

def empty : NameMap α := ⟨[], List.Pairwise.nil⟩

instance : Inhabited (NameMap α) := ⟨empty⟩

/-- Put an entry at its place, over the one of the same name if there is one. -/
def insertEntry (name : String) (x : α) : List (String × α) → List (String × α)
  | [] => [(name, x)]
  | e :: es =>
    if name < e.1 then (name, x) :: e :: es
    else if e.1 < name then e :: insertEntry name x es
    else (name, x) :: es

theorem mem_insertEntry {name : String} {x : α} {e : String × α} {es : List (String × α)}
    (h : e ∈ insertEntry name x es) : e = (name, x) ∨ e ∈ es := by
  induction es with
  | nil => simpa [insertEntry] using h
  | cons d ds ih =>
    unfold insertEntry at h
    split at h
    · simpa using h
    · split at h
      · rcases List.mem_cons.1 h with h | h
        · exact Or.inr (by simp [h])
        · exact (ih h).imp_right (List.mem_cons_of_mem _)
      · rcases List.mem_cons.1 h with h | h
        · exact Or.inl h
        · exact Or.inr (List.mem_cons_of_mem _ h)

theorem eq_of_not_lt {s t : String} (hst : ¬s < t) (hts : ¬t < s) : s = t :=
  String.le_antisymm (String.not_lt.1 hts) (String.not_lt.1 hst)

theorem pairwise_insertEntry (name : String) (x : α) {es : List (String × α)}
    (h : es.Pairwise (fun a b => a.1 < b.1)) :
    (insertEntry name x es).Pairwise (fun a b => a.1 < b.1) := by
  induction es with
  | nil => simp [insertEntry]
  | cons e es ih =>
    obtain ⟨he, hes⟩ := List.pairwise_cons.1 h
    unfold insertEntry
    split
    · rename_i hlt
      refine List.pairwise_cons.2 ⟨?_, h⟩
      intro d hd
      rcases List.mem_cons.1 hd with rfl | hd
      · exact hlt
      · exact String.lt_trans hlt (he d hd)
    · rename_i hnlt
      split
      · rename_i hlt
        refine List.pairwise_cons.2 ⟨?_, ih hes⟩
        intro d hd
        rcases mem_insertEntry hd with rfl | hd
        · exact hlt
        · exact he d hd
      · rename_i hngt
        refine List.pairwise_cons.2 ⟨?_, hes⟩
        intro d hd
        rw [eq_of_not_lt hnlt hngt]
        exact he d hd

/-- The map with one entry set; an earlier entry of that name is replaced. -/
def insert (m : NameMap α) (name : String) (x : α) : NameMap α :=
  ⟨insertEntry name x m.entries, pairwise_insertEntry name x m.sorted⟩

/-- Entries set one after another, so of repeated names the last counts. -/
def ofList (es : List (String × α)) : NameMap α :=
  es.foldl (fun m e => m.insert e.1 e.2) empty

/-- Entries of the second map win over those of the first. -/
def union (m upper : NameMap α) : NameMap α :=
  upper.entries.foldl (fun m e => m.insert e.1 e.2) m

def find? (m : NameMap α) (name : String) : Option α :=
  m.entries.lookup name

/-- The names, ascending. -/
def names (m : NameMap α) : List String :=
  m.entries.map Prod.fst

def size (m : NameMap α) : Nat :=
  m.entries.length

def isEmpty (m : NameMap α) : Bool :=
  m.entries.isEmpty

theorem lookup_entry (e : String × α) (es : List (String × α)) (other : String) :
    (e :: es).lookup other = if other = e.1 then some e.2 else es.lookup other := by
  obtain ⟨name, x⟩ := e
  by_cases ho : other = name
  · simp [ho]
  · simp [List.lookup_cons, ho, beq_eq_false_iff_ne.2 ho]

theorem lookup_insertEntry (name : String) (x : α) (es : List (String × α)) (other : String)
    (h : es.Pairwise (fun a b => a.1 < b.1)) :
    (insertEntry name x es).lookup other =
      if other = name then some x else es.lookup other := by
  induction es with
  | nil => simp [insertEntry, lookup_entry]
  | cons e es ih =>
    obtain ⟨-, hes⟩ := List.pairwise_cons.1 h
    unfold insertEntry
    split
    · rw [lookup_entry]
    · rename_i hnlt
      split
      · rename_i hlt
        rw [lookup_entry, lookup_entry, ih hes]
        by_cases hoe : other = e.1
        · have hne : other ≠ name := fun hh => String.lt_irrefl name (by rwa [← hoe, hh] at hlt)
          rw [if_pos hoe, if_neg hne, if_pos hoe]
        · rw [if_neg hoe, if_neg hoe]
      · rename_i hngt
        have hne : name = e.1 := eq_of_not_lt hnlt hngt
        rw [lookup_entry, lookup_entry, ← hne]
        by_cases ho : other = name
        · rw [if_pos ho, if_pos ho]
        · rw [if_neg ho, if_neg ho, if_neg ho]

theorem find?_insert (m : NameMap α) (name : String) (x : α) (other : String) :
    (m.insert name x).find? other = if other = name then some x else m.find? other :=
  lookup_insertEntry name x m.entries other m.sorted

end NameMap
end SqlFilter
