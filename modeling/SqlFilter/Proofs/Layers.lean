import SqlFilter.Proofs.NameMap
import SqlFilter.Proofs.Result
import SqlFilter.Settings.ConfigFile
/-! Layers of settings laid over each other. Every key is settled by itself: the last layer that sets
it counts, whatever any layer says of other keys. The schema of an entity is such a key. -/
namespace SqlFilter

namespace Layer
variable {α : Type}

/-- What the last of the layers that set a key sets it to. -/
def last? (key : Layer → Option α) (layers : List Layer) : Option α :=
  (layers.filterMap key).getLast?

/-- Of two layers the upper one counts if it sets the key, and otherwise the lower one. -/
def IsOverlaid (key : Layer → Option α) : Prop :=
  ∀ base upper : Layer, key (base.merge upper) = (key upper).or (key base)

theorem isOverlaid_escapeWildcards : IsOverlaid Layer.escapeWildcards := fun _ _ => rfl

theorem isOverlaid_validateFields : IsOverlaid Layer.validateFields := fun _ _ => rfl

theorem isOverlaid_dialect : IsOverlaid Layer.dialect := fun _ _ => rfl

/-- Schemas are laid over each other one by one. -/
theorem isOverlaid_schema (name : String) : IsOverlaid fun l => l.schemas.find? name :=
  fun base upper => NameMap.find?_union base.schemas upper.schemas name

variable {key : Layer → Option α}

theorem last?_append (below above : List Layer) :
    last? key (below ++ above) = (last? key above).or (last? key below) := by
  rw [last?, List.filterMap_append, List.getLast?_append]
  rfl

theorem last?_singleton (l : Layer) : last? key [l] = key l := by
  unfold last?
  cases hl : key l with
  | none => rw [List.filterMap_cons_none hl, List.filterMap_nil, List.getLast?_nil]
  | some x => rw [List.filterMap_cons_some hl, List.filterMap_nil, List.getLast?_singleton]

theorem last?_cons (l : Layer) (layers : List Layer) :
    last? key (l :: layers) = (last? key layers).or (key l) := by
  have happend : last? key ([l] ++ layers) = (last? key layers).or (last? key [l]) :=
    last?_append [l] layers
  rwa [List.singleton_append, last?_singleton] at happend

/-- A layer that leaves the key unset can as well be left out. -/
theorem last?_of_unset {l : Layer} (hl : key l = none) (below above : List Layer) :
    last? key (below ++ l :: above) = last? key (below ++ above) := by
  rw [last?_append, last?_append, last?_cons, hl, Option.or_none]

/-- The key has a setting just if some layer sets it. -/
theorem exists_last?_iff {layers : List Layer} :
    (∃ x, last? key layers = some x) ↔ ∃ l ∈ layers, ∃ x, key l = some x := by
  rw [← Option.isSome_iff_exists, last?, List.getLast?_isSome]
  constructor
  · intro hne
    obtain ⟨x, hx⟩ := List.exists_mem_of_ne_nil _ hne
    obtain ⟨l, hl, hset⟩ := List.mem_filterMap.1 hx
    exact ⟨l, hl, x, hset⟩
  · rintro ⟨l, hl, x, hx⟩
    exact List.ne_nil_of_mem (List.mem_filterMap.2 ⟨l, hl, hx⟩)

/-- All layers together set a key as the last one that sets it, on whatever they are laid. -/
theorem foldl_merge_of_isOverlaid (hkey : IsOverlaid key) (base : Layer) (layers : List Layer) :
    key (layers.foldl merge base) = (last? key layers).or (key base) := by
  induction layers generalizing base with
  | nil => rfl
  | cons l layers ih =>
    calc key ((l :: layers).foldl merge base)
        = (last? key layers).or (key (base.merge l)) := ih (base.merge l)
      _ = (last? key layers).or ((key l).or (key base)) := by rw [hkey]
      _ = (last? key (l :: layers)).or (key base) := by rw [last?_cons, Option.or_assoc]

/-- On the layer that sets nothing only what they set themselves is left. -/
theorem merged_eq_last? (hkey : IsOverlaid key) (hempty : key .empty = none)
    (layers : List Layer) : key (layers.foldl merge .empty) = last? key layers := by
  rw [foldl_merge_of_isOverlaid hkey, hempty, Option.or_none]

end Layer

/-- Files that can be read make one layer of what they set. Files that are absent count for
nothing. -/
theorem ConfigFile.stack_of_layers {files : List ConfigFile}
    {reads : List (Option (Layer × List String))} (h : files.mapM layer = .ok reads) (base : Layer) :
    (stack base files).2 = .ok (((reads.filterMap id).map Prod.fst).foldl Layer.merge base) := by
  rw [mapM_eq_ok_iff] at h
  induction h generalizing base with
  | nil => rfl
  | @cons f read files reads hf _ ih =>
    cases read with
    | none =>
      have hstack : stack base (f :: files) = stack base files := by simp only [stack, hf]
      rw [hstack, ih]
      rfl
    | some read =>
      obtain ⟨upper, unknown⟩ := read
      have hstack : (stack base (f :: files)).2 = (stack (base.merge upper) files).2 := by
        simp only [stack, hf]
      rw [hstack, ih]
      rfl

namespace Settings

/-- Each setting is what the highest of its sources says: the overrides, or the last layer that sets
it, or the default. Only escaping is switched on by either. An entity is known if a layer has a
schema for it, and has the last such schema as a whole. What a layer leaves unset stays as the
layers below make it. These are the settings that files with such layers make. -/
theorem resolve_layers (layers : List Layer) (o : Overrides) :
    let resolved (layers : List Layer) := resolve (layers.foldl Layer.merge .empty) o
    let s := resolved layers
    s.dialect = (o.dialect.or (Layer.last? Layer.dialect layers)).getD .default ∧
      s.options.validateFields = (Layer.last? Layer.validateFields layers).getD true ∧
      s.options.escapeWildcards =
        (o.escapeWildcards || (Layer.last? Layer.escapeWildcards layers).getD false) ∧
      (∀ name, (name ∈ s.schemas.names ↔ ∃ l ∈ layers, name ∈ l.schemas.names) ∧
        s.schemas.find? name = Layer.last? (fun l => l.schemas.find? name) layers) ∧
      (∀ below l above, layers = below ++ l :: above →
        let without := resolved (below ++ above)
        (l.dialect = none → s.dialect = without.dialect) ∧
        (l.validateFields = none → s.options.validateFields = without.options.validateFields) ∧
        (l.escapeWildcards = none →
          s.options.escapeWildcards = without.options.escapeWildcards) ∧
        ∀ name, l.schemas.find? name = none →
          s.schemas.find? name = without.schemas.find? name) ∧
      ∀ files reads, files.mapM ConfigFile.layer = .ok reads →
        (reads.filterMap id).map Prod.fst = layers → (ofFiles o files).2 = s.checked := by
  intro resolved s
  -- each setting is a key of the layers, with an override above it and a default below
  have hdialect (layers : List Layer) : (resolved layers).dialect =
      (o.dialect.or (Layer.last? Layer.dialect layers)).getD .default := by
    rw [← Layer.merged_eq_last? Layer.isOverlaid_dialect rfl]
    rfl
  have hvalidate (layers : List Layer) : (resolved layers).options.validateFields =
      (Layer.last? Layer.validateFields layers).getD true := by
    rw [← Layer.merged_eq_last? Layer.isOverlaid_validateFields rfl]
    rfl
  have hescape (layers : List Layer) : (resolved layers).options.escapeWildcards =
      (o.escapeWildcards || (Layer.last? Layer.escapeWildcards layers).getD false) := by
    rw [← Layer.merged_eq_last? Layer.isOverlaid_escapeWildcards rfl]
    rfl
  have hschema (layers : List Layer) (name : String) : (resolved layers).schemas.find? name =
      Layer.last? (fun l => l.schemas.find? name) layers :=
    Layer.merged_eq_last? (Layer.isOverlaid_schema name) rfl layers
  refine ⟨hdialect layers, hvalidate layers, hescape layers, ?_, ?_, ?_⟩
  · intro name
    refine ⟨?_, hschema layers name⟩
    rw [NameMap.mem_names_iff, hschema, Layer.exists_last?_iff]
    simp only [NameMap.mem_names_iff]
  · -- a layer in between that leaves a key unset can be left out as far as that key goes
    rintro below l above rfl
    refine ⟨?_, ?_, ?_, ?_⟩
    · intro hl
      rw [hdialect, hdialect, Layer.last?_of_unset hl]
    · intro hl
      rw [hvalidate, hvalidate, Layer.last?_of_unset hl]
    · intro hl
      rw [hescape, hescape, Layer.last?_of_unset hl]
    · intro name hl
      rw [hschema, hschema, Layer.last?_of_unset hl]
  · rintro files reads hreads rfl
    have hfiles : (ofFiles o files).2 =
        (ConfigFile.stack .empty files).2.bind fun l => (resolve l o).checked := rfl
    rw [hfiles, ConfigFile.stack_of_layers hreads]
    rfl

/-- Each of two files has one of the options, and both have a schema for the same entity. -/
theorem resolve_layers_partial :
    let users : Schema := ⟨"Users", [], none⟩
    let members : Schema := ⟨"Members", [], none⟩
    let lower : Layer := ⟨some true, none, none, NameMap.empty.insert "user" users⟩
    let upper : Layer := ⟨none, some false, none, NameMap.empty.insert "user" members⟩
    let file (text : String) : ConfigFile := ⟨"predsql.json", false, .ok text⟩
    let files : List ConfigFile :=
      [file ("\x7b\"compiler\":\x7b\"escape_like_wildcards\":true\x7d," ++
          "\"schemas\":\x7b\"user\":\x7b\"table_name\":\"Users\",\"columns\":[]\x7d\x7d\x7d"),
        file ("\x7b\"compiler\":\x7b\"validate_fields\":false\x7d," ++
          "\"schemas\":\x7b\"user\":\x7b\"table_name\":\"Members\",\"columns\":[]\x7d\x7d\x7d")]
    let o : Overrides := ⟨none, some .postgres, false⟩
    let below := resolve ([lower].foldl Layer.merge .empty) o
    let s := resolve ([lower, upper].foldl Layer.merge .empty) o
    files.mapM ConfigFile.layer = .ok [some (lower, []), some (upper, [])] ∧
      s.dialect = .postgres ∧ s.options = ⟨true, false⟩ ∧ "user" ∈ s.schemas.names ∧
      s.schemas.find? "user" = some members ∧
      s.options.escapeWildcards = below.options.escapeWildcards ∧
      (ofFiles o files).2 = s.checked := by
  intro users members lower upper file files o below s
  have hlower : (files[0]).layer = .ok (some (lower, [])) := by
    simp only [files, file, lower, users]
    rfl
  have hupper : (files[1]).layer = .ok (some (upper, [])) := by
    simp only [files, file, upper, members]
    rfl
  have hfiles : files.mapM ConfigFile.layer = .ok [some (lower, []), some (upper, [])] :=
    mapM_eq_ok_iff.2 (.cons hlower (.cons hupper .nil))
  obtain ⟨hdialect, hvalidate, hescape, hschemas, hunset, hread⟩ := resolve_layers [lower, upper] o
  obtain ⟨-, -, hkept, -⟩ := hunset [lower] upper [] rfl
  have hknown : "user" ∈ s.schemas.names :=
    (hschemas "user").1.2 ⟨upper, by simp, List.mem_singleton_self "user"⟩
  have hoptions : s.options = ⟨true, false⟩ := congrArg₂ CompileOptions.mk hescape hvalidate
  exact ⟨hfiles, hdialect, hoptions, hknown, (hschemas "user").2, hkept rfl,
    hread files _ hfiles rfl⟩

end Settings
end SqlFilter
