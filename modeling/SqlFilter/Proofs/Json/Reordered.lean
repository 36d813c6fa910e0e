import SqlFilter.Json.Tree
import SqlFilter.Proofs.Lookup
/-! Documents whose objects name their members in another order. Readers of records find the members
by name, so they see no difference. -/
namespace SqlFilter.Json

/-- The second document is the first one with the members of objects in any order, on top and
anywhere within. -/
inductive Reordered : Json → Json → Prop
  | refl (j : Json) : Reordered j j
  | list {items items' : List Json} (h : List.Forall₂ Reordered items items') :
      Reordered (.list items) (.list items')
  | object {ms ms' ns : List (String × Json)} (names_eq : ms.map Prod.fst = ms'.map Prod.fst)
      (h : List.Forall₂ Reordered (ms.map Prod.snd) (ms'.map Prod.snd)) (perm : ms'.Perm ns) :
      Reordered (.object ms) (.object ns)

namespace Reordered

theorem of_list {items : List Json} {k : Json} (h : Reordered (.list items) k) :
    ∃ items', k = .list items' ∧ List.Forall₂ Reordered items items' := by
  cases h with
  | refl => exact ⟨items, rfl, List.forall₂_same.2 fun j _ => .refl j⟩
  | list h => exact ⟨_, rfl, h⟩

theorem of_object {ms : List (String × Json)} {k : Json} (h : Reordered (.object ms) k) :
    ∃ ms' ns : List (String × Json), k = .object ns ∧ ms.map Prod.fst = ms'.map Prod.fst ∧
      List.Forall₂ Reordered (ms.map Prod.snd) (ms'.map Prod.snd) ∧ ms'.Perm ns := by
  cases h with
  | refl => exact ⟨ms, ms, rfl, rfl, List.forall₂_same.2 fun j _ => .refl j, .refl ms⟩
  | object names_eq h perm => exact ⟨_, _, rfl, names_eq, h, perm⟩

theorem exists_member {ms ms' : List (String × Json)}
    (names_eq : ms.map Prod.fst = ms'.map Prod.fst)
    (h : List.Forall₂ Reordered (ms.map Prod.snd) (ms'.map Prod.snd)) {name : String} {j : Json}
    (hmem : (name, j) ∈ ms) : ∃ j', (name, j') ∈ ms' ∧ Reordered j j' := by
  induction ms generalizing ms' with
  | nil => simp at hmem
  | cons m ms ih =>
    cases ms' with
    | nil => simp at names_eq
    | cons m' ms' =>
      rw [List.map_cons, List.map_cons, List.cons.injEq] at names_eq
      obtain ⟨hname, hnames⟩ := names_eq
      obtain ⟨hfirst, hrest⟩ := List.forall₂_cons.1 h
      rcases List.mem_cons.1 hmem with rfl | hmem
      · exact ⟨m'.2, List.mem_cons.2 (Or.inl (Prod.ext hname rfl)), hfirst⟩
      · obtain ⟨j', hj', hreordered⟩ := ih hnames hrest hmem
        exact ⟨j', List.mem_cons_of_mem m' hj', hreordered⟩

end Reordered

section Members
variable {α : Type} {members : List (String × α)}

/-- Where no name is repeated, looking for a single entry is looking it up. -/
theorem single?_eq_lookup (hnames : (members.map Prod.fst).Nodup) (name : String) :
    single? members name = some (members.lookup name) := by
  have hfilter {ms : List (String × α)} (h : name ∉ ms.map Prod.fst) :
      ms.filter (·.1 == name) = [] := by
    refine List.filter_eq_nil_iff.2 ?_
    intro m hm heq
    exact h (List.mem_map.2 ⟨m, hm, eq_of_beq heq⟩)
  by_cases hmem : name ∈ members.map Prod.fst
  · obtain ⟨⟨_, x⟩, hx, rfl⟩ := List.mem_map.1 hmem
    rw [lookup_of_mem hnames hx]
    obtain ⟨before, after, rfl⟩ := List.append_of_mem hx
    rw [List.map_append, List.map_cons, List.nodup_append] at hnames
    obtain ⟨-, hafter, hbefore⟩ := hnames
    -- no other entry has the name, before or after the one that is looked up
    have hnew := fun hmem => hbefore _ hmem _ List.mem_cons_self rfl
    rw [single?, List.filter_append, List.filter_cons_of_pos (by simp), hfilter hnew,
      hfilter (List.nodup_cons.1 hafter).1, List.nil_append]
  · rw [lookup_of_not_mem hmem, single?, hfilter hmem]

end Members

/-- In a reordered object every member is found under its name, and nothing else is found. -/
theorem Reordered.lookup {ms : List (String × Json)} {k : Json}
    (hnames : (ms.map Prod.fst).Nodup) (h : Reordered (.object ms) k) :
    ∃ ns, k = .object ns ∧ (ns.map Prod.fst).Nodup ∧
      (∀ m ∈ ms, ∃ j, ns.lookup m.1 = some j ∧ m.2.Reordered j) ∧
      ∀ name ∉ ms.map Prod.fst, ns.lookup name = none := by
  obtain ⟨ms', ns, rfl, names_eq, hvalues, hperm⟩ := h.of_object
  have hmoved : (ns.map Prod.fst).Perm (ms.map Prod.fst) := names_eq ▸ (hperm.map Prod.fst).symm
  have hnodup := hmoved.nodup_iff.2 hnames
  refine ⟨ns, rfl, hnodup, ?_, ?_⟩
  · intro m hm
    obtain ⟨j, hj, hreordered⟩ := exists_member names_eq hvalues hm
    exact ⟨j, lookup_of_mem hnodup (hperm.mem_iff.1 hj), hreordered⟩
  · intro name hname
    exact lookup_of_not_mem (fun hmem => hname (hmoved.mem_iff.1 hmem))

theorem mapM_eq_some_map {α β : Type} {f : α → Option β} {g : α → β} {xs : List α}
    (h : ∀ x ∈ xs, f x = some (g x)) : xs.mapM f = some (xs.map g) := by
  induction xs with
  | nil => rfl
  | cons x xs ih =>
    rw [List.mapM_cons, h x List.mem_cons_self, ih (fun y hy => h y (List.mem_cons_of_mem x hy))]
    rfl

end SqlFilter.Json
