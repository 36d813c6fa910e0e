import SqlFilter.NameMap
import SqlFilter.Proofs.Lookup
/-! Maps from names as their entries. Entries of different names make up one map, whichever of them
is set first. -/
namespace SqlFilter

def NameMap.map {α β : Type} (f : α → β) (m : NameMap α) : NameMap β :=
  ⟨m.entries.map fun e => (e.1, f e.2), List.pairwise_map.2 m.sorted⟩

namespace NameMap
variable {α : Type}

theorem nodup_names (m : NameMap α) : (m.entries.map Prod.fst).Nodup := by
  refine List.pairwise_map.2 (m.sorted.imp ?_)
  intro a b hlt heq
  rw [heq] at hlt
  exact String.lt_irrefl _ hlt

theorem eq_of_perm {m m' : NameMap α} (h : m.entries.Perm m'.entries) : m = m' := by
  have hentries : m.entries = m'.entries := by
    refine h.eq_of_pairwise ?_ m.sorted m'.sorted
    intro a b _ _ hab hba
    exact absurd (String.lt_trans hab hba) (String.lt_irrefl _)
  cases m
  cases m'
  simpa using hentries

/-- A function that moves none of the values leaves the map as it is. -/
theorem map_eq_self {m : NameMap α} {f : α → α} (h : ∀ e ∈ m.entries, f e.2 = e.2) :
    m.map f = m := by
  have hentries : (m.map f).entries = m.entries.map id :=
    List.map_congr_left fun e he => Prod.ext rfl (h e he)
  rw [List.map_id] at hentries
  exact eq_of_perm (List.Perm.of_eq hentries)

theorem perm_insertEntry {name : String} (x : α) {es : List (String × α)}
    (hname : name ∉ es.map Prod.fst) : (insertEntry name x es).Perm ((name, x) :: es) := by
  induction es with
  | nil => exact List.Perm.refl _
  | cons e es ih =>
    rw [List.map_cons, List.mem_cons, not_or] at hname
    obtain ⟨hne, hname⟩ := hname
    unfold insertEntry
    split
    · exact List.Perm.refl _
    · rename_i hnlt
      split
      · exact ((ih hname).cons e).trans (List.Perm.swap _ _ es)
      · -- a name that is neither before nor after another one would be the same
        rename_i hngt
        exact absurd (eq_of_not_lt hnlt hngt) hne

theorem perm_entries_foldl {es : List (String × α)} {m : NameMap α}
    (hnames : ((m.entries ++ es).map Prod.fst).Nodup) :
    (es.foldl (fun m e => m.insert e.1 e.2) m).entries.Perm (m.entries ++ es) := by
  induction es generalizing m with
  | nil => simp
  | cons e es ih =>
    have hmoved : (m.entries ++ e :: es).Perm (e :: m.entries ++ es) := List.perm_middle
    have hnodup := (hmoved.map Prod.fst).nodup_iff.1 hnames
    have hnew : e.1 ∉ m.entries.map Prod.fst := by
      rw [List.cons_append, List.map_cons, List.nodup_cons, List.map_append] at hnodup
      exact fun hmem => hnodup.1 (List.mem_append_left _ hmem)
    -- the new entry stands somewhere among those that are there
    have hinsert : ((m.insert e.1 e.2).entries ++ es).Perm (e :: m.entries ++ es) :=
      (perm_insertEntry e.2 hnew).append_right es
    have hrest := ih ((hinsert.map Prod.fst).nodup_iff.2 hnodup)
    exact (hrest.trans hinsert).trans hmoved.symm

/-- The entries of a map make it up again in any order. -/
theorem ofList_of_perm {es : List (String × α)} {m : NameMap α} (h : es.Perm m.entries) :
    ofList es = m := by
  have hnames : (((empty : NameMap α).entries ++ es).map Prod.fst).Nodup :=
    (h.map Prod.fst).nodup_iff.2 m.nodup_names
  exact eq_of_perm ((perm_entries_foldl hnames).trans h)

theorem mem_entries_iff {m : NameMap α} {name : String} {x : α} :
    (name, x) ∈ m.entries ↔ m.find? name = some x := by
  refine ⟨lookup_of_mem m.nodup_names, ?_⟩
  intro h
  obtain ⟨before, after, hsplit, -⟩ := List.lookup_eq_some_iff.1 h
  rw [hsplit]
  exact List.mem_append_right before List.mem_cons_self

/-- Of the entries of a map those before one of them are those with a lesser name. -/
theorem forall_before_iff {m : NameMap α} {before after : List (String × α)} {e : String × α}
    (hsplit : m.entries = before ++ e :: after) {P : String → α → Prop} :
    (∀ d ∈ before, P d.1 d.2) ↔ ∀ name x, m.find? name = some x → name < e.1 → P name x := by
  have hsorted := m.sorted
  rw [hsplit, List.pairwise_append, List.pairwise_cons] at hsorted
  obtain ⟨-, ⟨hafter, -⟩, hbefore⟩ := hsorted
  constructor
  · intro h name x hfound hlt
    rw [← mem_entries_iff, hsplit, List.mem_append, List.mem_cons] at hfound
    rcases hfound with hmem | rfl | hmem
    · exact h _ hmem
    · exact absurd hlt (String.lt_irrefl _)
    · exact absurd (String.lt_trans hlt (hafter _ hmem)) (String.lt_irrefl _)
  · intro h d hd
    refine h d.1 d.2 (mem_entries_iff.1 ?_) (hbefore d hd e List.mem_cons_self)
    rw [hsplit]
    exact List.mem_append_left _ hd

theorem mem_names_iff {m : NameMap α} {name : String} :
    name ∈ m.names ↔ ∃ x, m.find? name = some x := by
  rw [← Option.isSome_iff_exists, find?, List.lookup_isSome_iff, names, List.mem_map]
  simp only [beq_iff_eq, @eq_comm _ name]

/-- Of entries with different names each is found after they are all set. -/
theorem find?_foldl_insert {es : List (String × α)} (hnames : (es.map Prod.fst).Nodup)
    (m : NameMap α) (name : String) :
    (es.foldl (fun m e => m.insert e.1 e.2) m).find? name =
      (es.lookup name).or (m.find? name) := by
  induction es generalizing m with
  | nil => rfl
  | cons e es ih =>
    rw [List.map_cons, List.nodup_cons] at hnames
    obtain ⟨hfirst, hrest⟩ := hnames
    rw [List.foldl_cons, ih hrest, find?_insert, lookup_entry]
    by_cases hname : name = e.1
    · -- no entry after it has this name
      have hnone : es.lookup name = none := lookup_of_not_mem (hname ▸ hfirst)
      rw [if_pos hname, if_pos hname, hnone, Option.none_or, Option.some_or]
    · rw [if_neg hname, if_neg hname]

theorem find?_union (m upper : NameMap α) (name : String) :
    (m.union upper).find? name = (upper.find? name).or (m.find? name) :=
  find?_foldl_insert upper.nodup_names m name

end NameMap
end SqlFilter
