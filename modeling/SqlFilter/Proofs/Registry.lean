import SqlFilter.Command.Answer
import SqlFilter.Proofs.ByteOrder
import SqlFilter.Proofs.NameMap
/-! Registries over any run of registrations. A registry finds under a name what was registered last
under it, and whatever else it tells follows from what it finds. -/
namespace SqlFilter

/-- The values of a map are what is found under its names. -/
theorem NameMap.filterMap_find?_names {α : Type} (m : NameMap α) :
    m.names.filterMap m.find? = m.entries.map Prod.snd := by
  rw [names, List.filterMap_map, ← List.filterMap_eq_map]
  exact List.filterMap_congr fun e he => mem_entries_iff.1 he

namespace Registry

/-- No name is without a schema, so the names and the schemas found under them keep in step. -/
theorem summaries_eq_map (r : Registry) :
    r.summaries = r.entries.map fun e => .ofSchema e.1 e.2 := by
  rw [summaries, NameMap.filterMap_find?_names, NameMap.names, List.zip_map', List.map_map]
  rfl

theorem find?_register (r : Registry) (name other : String) (s : Schema) :
    (r.register name s).2.find? other = if other = name then some s else r.find? other := by
  rw [register, NameMap.find?_insert]

/-- Registers one schema after another, and tells what each of them replaces. -/
def registerAll (r : Registry) : List (String × Schema) → List (Option Schema) × Registry
  | [] => ([], r)
  | (name, s) :: steps =>
    let (replaced, next) := r.register name s
    let (later, last) := registerAll next steps
    (replaced :: later, last)

theorem registerAll_append (r : Registry) (steps more : List (String × Schema)) :
    r.registerAll (steps ++ more) =
      ((r.registerAll steps).1 ++ ((r.registerAll steps).2.registerAll more).1,
        ((r.registerAll steps).2.registerAll more).2) := by
  induction steps generalizing r with
  | nil => rfl
  | cons step steps ih =>
    obtain ⟨name, s⟩ := step
    simp only [List.cons_append, registerAll, ih]

theorem registerAll_concat (r : Registry) (steps : List (String × Schema)) (name : String)
    (s : Schema) : (r.registerAll (steps ++ [(name, s)])).2 =
      ((r.registerAll steps).2.register name s).2 := by
  rw [registerAll_append]
  rfl

theorem length_registerAll (r : Registry) (steps : List (String × Schema)) :
    (r.registerAll steps).1.length = steps.length := by
  induction steps generalizing r with
  | nil => rfl
  | cons step steps ih => rw [registerAll, List.length_cons, List.length_cons, ih]

/-- A registry that is collected is the same as one that is registered step by step. -/
theorem ofList_eq_registerAll (init : List (String × Schema)) :
    (NameMap.ofList init : Registry) = (registerAll .empty init).2 := by
  unfold NameMap.ofList
  generalize (NameMap.empty : Registry) = r
  induction init generalizing r with
  | nil => rfl
  | cons step steps ih => rw [List.foldl_cons, ih]; rfl

/-- Under every name the registry finds the last entry of a history. -/
def Records (r : Registry) (history : List (String × Schema)) : Prop :=
  ∀ name, r.find? name = history.reverse.lookup name

theorem records_empty : Records .empty [] := fun _ => rfl

section Records
variable {r : Registry} {history : List (String × Schema)}

theorem Records.register (h : r.Records history) (name : String) (s : Schema) :
    (r.register name s).2.Records (history ++ [(name, s)]) := by
  intro other
  rw [find?_register, List.reverse_concat, NameMap.lookup_entry, h]

theorem Records.registerAll (h : r.Records history) (steps : List (String × Schema)) :
    (r.registerAll steps).2.Records (history ++ steps) := by
  induction steps generalizing r history with
  | nil => rwa [List.append_nil]
  | cons step steps ih =>
    obtain ⟨name, s⟩ := step
    simpa [Registry.registerAll] using ih (h.register name s)

theorem records_ofList (init : List (String × Schema)) :
    Records (NameMap.ofList init) init := by
  rw [ofList_eq_registerAll]
  exact records_empty.registerAll init

end Records

/-- What a registry tells after a history of registrations. -/
structure Tells (r : Registry) (history : List (String × Schema)) : Prop where
  found_iff (name : String) (s : Schema) : r.find? name = some s ↔
    ∃ before after, history = before ++ (name, s) :: after ∧ name ∉ after.map Prod.fst
  absent_iff (name : String) : r.find? name = none ↔ name ∉ history.map Prod.fst
  names_ascending : (r.names.map utf8Bytes).Pairwise (· < ·)
  mem_names_iff (name : String) : name ∈ r.names ↔ ∃ s, r.find? name = some s
  size_eq : r.size = r.names.length
  isEmpty_iff : r.isEmpty = true ↔ r.names = []
  summaries_paired : List.Forall₂ (fun name e => ∃ s, r.find? name = some s ∧
    e = ⟨name, s.tableName, s.columns.map (·.name), (s.columns.filter (·.isKey)).map (·.name)⟩)
    r.names r.summaries
  summaries_zipped : r.summaries =
    (r.names.zip (r.names.filterMap r.find?)).map fun e => .ofSchema e.1 e.2

theorem Records.tells {r : Registry} {history : List (String × Schema)} (h : r.Records history) :
    r.Tells history where
  found_iff name s := by rw [h, lookup_reverse_eq_some_iff]
  absent_iff name := by rw [h, lookup_reverse_eq_none_iff]
  names_ascending := by
    rw [NameMap.names, List.map_map, List.pairwise_map]
    exact r.sorted.imp fun hlt => (lt_iff_utf8Bytes_lt _ _).1 hlt
  mem_names_iff _ := NameMap.mem_names_iff
  size_eq := by rw [NameMap.size, NameMap.names, List.length_map]
  isEmpty_iff := by rw [NameMap.isEmpty, NameMap.names, List.isEmpty_iff, List.map_eq_nil_iff]
  summaries_paired := by
    rw [summaries_eq_map, NameMap.names, List.forall₂_map_left_iff, List.forall₂_map_right_iff]
    exact List.forall₂_same.2 fun e he => ⟨e.2, NameMap.mem_entries_iff.1 he, rfl⟩
  summaries_zipped := rfl

/-- After any run of registrations on a registry with any content, the registry tells what was
registered last under each name. A registration gives what was found under its name just before it,
and changes what is found under this name only. The registry of settings is made up of their schemas
in this way, and its summaries are the answer to the command for them. -/
theorem registerAll_tells (init steps : List (String × Schema)) :
    let start : Registry := .ofList init
    let run := start.registerAll steps
    run.2.Tells (init ++ steps) ∧ run.1.length = steps.length ∧
      (∀ before name s after, steps = before ++ (name, s) :: after →
        let earlier := (start.registerAll before).2
        let later := (start.registerAll (before ++ [(name, s)])).2
        run.1[before.length]? = some (earlier.find? name) ∧ later.find? name = some s ∧
          ∀ other, other ≠ name → later.find? other = earlier.find? other) ∧
      (∀ settings : Settings, settings.registry = .ofList settings.schemas.entries) ∧
      ∀ {m : Type → Type} [Monad m] (settings : Settings) (host : Host m),
        settings.registry = run.2 → settings.answer host .schemas =
          pure (.list (run.2.summaries.map EntitySummary.toJson)) := by
  intro start run
  refine ⟨((records_ofList init).registerAll steps).tells, length_registerAll start steps, ?_, ?_, ?_⟩
  · rintro before name s after hsplit earlier later
    have hrun : run = start.registerAll (before ++ (name, s) :: after) := by rw [← hsplit]
    have hlater : later = (earlier.register name s).2 := registerAll_concat start before name s
    refine ⟨?_, ?_, ?_⟩
    · rw [hrun, registerAll_append, List.getElem?_append_right (by rw [length_registerAll]),
        length_registerAll, Nat.sub_self]
      rfl
    · rw [hlater, find?_register, if_pos rfl]
    · intro other hne
      rw [hlater, find?_register, if_neg hne]
  · intro settings
    exact (NameMap.ofList_of_perm (List.Perm.refl _)).symm
  · rintro m _ settings host hregistry
    rw [← hregistry]
    rfl

end Registry
end SqlFilter
