import Mathlib.Data.List.Nodup
/-! Lists of entries under names, where names may be repeated: what is found from the front and from
the end. -/
namespace SqlFilter
variable {α β : Type} {entries : List (String × α)} {name : String} {x : α}

theorem lookup_of_mem (hnames : (entries.map Prod.fst).Nodup) (h : (name, x) ∈ entries) :
    entries.lookup name = some x := by
  obtain ⟨before, after, rfl⟩ := List.append_of_mem h
  rw [List.map_append, List.map_cons, List.nodup_append] at hnames
  obtain ⟨-, -, hbefore⟩ := hnames
  refine List.lookup_eq_some_iff.2 ⟨before, after, rfl, ?_⟩
  intro e he
  exact bne_iff_ne.2 (hbefore e.1 (List.mem_map_of_mem he) name List.mem_cons_self).symm

theorem forall_bne_iff : (∀ e ∈ entries, (name != e.1) = true) ↔ name ∉ entries.map Prod.fst := by
  simp only [bne_iff_ne, List.mem_map, not_exists, not_and]
  exact forall₂_congr fun e _ => ne_comm

theorem lookup_of_not_mem (h : name ∉ entries.map Prod.fst) : entries.lookup name = none :=
  List.lookup_eq_none_iff.2 (forall_bne_iff.2 h)

theorem lookup_map_snd (f : α → β) (entries : List (String × α)) (name : String) :
    (entries.map fun e => (e.1, f e.2)).lookup name = (entries.lookup name).map f := by
  induction entries with
  | nil => rfl
  | cons e entries ih =>
    rw [List.map_cons, List.lookup_cons, List.lookup_cons, ih]
    cases name == e.1 <;> rfl

/-- From the end the last entry of a name is found. -/
theorem lookup_reverse_eq_some_iff : entries.reverse.lookup name = some x ↔
    ∃ before after, entries = before ++ (name, x) :: after ∧ name ∉ after.map Prod.fst := by
  rw [List.lookup_eq_some_iff]
  constructor
  · rintro ⟨later, earlier, hsplit, hlater⟩
    refine ⟨earlier.reverse, later.reverse, ?_, ?_⟩
    · rw [← List.reverse_reverse entries, hsplit]
      simp
    · rw [List.map_reverse, List.mem_reverse]
      exact forall_bne_iff.1 hlater
  · rintro ⟨before, after, rfl, hafter⟩
    refine ⟨after.reverse, before.reverse, by simp, forall_bne_iff.2 ?_⟩
    rwa [List.map_reverse, List.mem_reverse]

theorem lookup_reverse_eq_none_iff :
    entries.reverse.lookup name = none ↔ name ∉ entries.map Prod.fst := by
  rw [List.lookup_eq_none_iff, forall_bne_iff, List.map_reverse, List.mem_reverse]

end SqlFilter
