import SqlFilter.Expr.Json
import SqlFilter.Proofs.Json.Value
import SqlFilter.Proofs.NameMap
/-! Predicates as they come back from documents. The nodes come back as they were, wherever their
members stand, with what is kept of the values that they carry. -/
namespace SqlFilter

theorem Json.Reordered.eq_of_text {s : String} {k : Json} (h : Reordered (.text s) k) :
    k = .text s := by
  cases h
  rfl

namespace Expr

mutual

/-- The expression with its literals and the members of its captured objects replaced. -/
def mapValues (f : Value → Value) : Expr → Expr
  | .field path => .field path
  | .constant v => .constant (f v)
  | .captured name members => .captured name (members.map f)
  | .member target name => .member (target.mapValues f) name
  | .binary op left right => .binary op (left.mapValues f) (right.mapValues f)
  | .not operand => .not (operand.mapValues f)
  | .call method target args => .call method (mapTarget f target) (mapArgs f args)

def mapTarget (f : Value → Value) : Option Expr → Option Expr
  | none => none
  | some target => some (target.mapValues f)

def mapArgs (f : Value → Value) : List Expr → List Expr
  | [] => []
  | e :: es => e.mapValues f :: mapArgs f es

end

mutual

/-- The values that the expression carries, from left to right. -/
def values : Expr → List Value
  | .field _ => []
  | .constant v => [v]
  | .captured _ members => members.entries.map Prod.snd
  | .member target _ => target.values
  | .binary _ left right => left.values ++ right.values
  | .not operand => operand.values
  | .call _ target args => targetValues target ++ argsValues args

def targetValues : Option Expr → List Value
  | none => []
  | some target => target.values

def argsValues : List Expr → List Value
  | [] => []
  | e :: es => e.values ++ argsValues es

end

section Self
variable {f : Value → Value}

mutual

/-- Nothing is replaced if the values stay as they are. -/
theorem mapValues_eq_self : ∀ e : Expr, (∀ v ∈ e.values, f v = v) → e.mapValues f = e
  | .field _, _ => rfl
  | .constant v, h => by rw [mapValues, h v (List.mem_singleton_self v)]
  | .captured name members, h => by
    have hmembers : ∀ e ∈ members.entries, f e.2 = e.2 :=
      fun e he => h e.2 (List.mem_map_of_mem he)
    rw [mapValues, NameMap.map_eq_self hmembers]
  | .member target name, h => by rw [mapValues, mapValues_eq_self target h]
  | .binary op left right, h => by
    rw [values] at h
    rw [mapValues, mapValues_eq_self left (fun v hv => h v (List.mem_append_left _ hv)),
      mapValues_eq_self right (fun v hv => h v (List.mem_append_right _ hv))]
  | .not operand, h => by rw [mapValues, mapValues_eq_self operand h]
  | .call method target args, h => by
    rw [values] at h
    rw [mapValues, mapTarget_eq_self target (fun v hv => h v (List.mem_append_left _ hv)),
      mapArgs_eq_self args (fun v hv => h v (List.mem_append_right _ hv))]

theorem mapTarget_eq_self : ∀ target : Option Expr, (∀ v ∈ targetValues target, f v = v) →
    mapTarget f target = target
  | none, _ => rfl
  | some target, h => by rw [mapTarget, mapValues_eq_self target h]

theorem mapArgs_eq_self : ∀ args : List Expr, (∀ v ∈ argsValues args, f v = v) →
    mapArgs f args = args
  | [], _ => rfl
  | e :: es, h => by
    rw [argsValues] at h
    rw [mapArgs, mapValues_eq_self e (fun v hv => h v (List.mem_append_left _ hv)),
      mapArgs_eq_self es (fun v hv => h v (List.mem_append_right _ hv))]

end

end Self

theorem memberReadings_eq_map (ms : List (String × Json)) :
    memberReadings ms = ms.map fun m => (m.1, reading m.2) := by
  induction ms with
  | nil => rfl
  | cons m ms ih => rw [memberReadings, ih, List.map_cons]

theorem raw_reading (j : Json) : (reading j).raw = j := by
  cases j <;> simp [reading]

/-- A document that is an object for a node, on its own and within another one. -/
def ReadsAs (k : Json) (e : Expr) : Prop :=
  ∃ ns, k = .object ns ∧ ∀ inner, ofMembers? inner (memberReadings ns) = some e

theorem ReadsAs.node?_reading {k : Json} {e : Expr} (h : ReadsAs k e) :
    (reading k).node? = some e := by
  obtain ⟨ns, rfl, hread⟩ := h
  rw [reading]
  exact hread true

theorem ReadsAs.ofJson?_eq {k : Json} {e : Expr} (h : ReadsAs k e) : ofJson? k = some e := by
  obtain ⟨ns, rfl, hread⟩ := h
  rw [ofJson?]
  exact hread false

/-- The members of a node are found by their names, in whatever order they come. -/
theorem readsAs_of_reordered (kind : Kind) (fields : List (String × Json)) {k : Json}
    (hnames : ("kind" :: fields.map Prod.fst).Nodup)
    (h : Json.Reordered (.object (("kind", .text kind.name) :: fields)) k) :
    ∃ found : String → Option Json,
      (∀ m ∈ fields, ∃ j, found m.1 = some j ∧ m.2.Reordered j) ∧
      (∀ name ∉ "kind" :: fields.map Prod.fst, found name = none) ∧
      ∀ e, ofFields? kind (kind.fieldNames.map fun name => (found name).map reading) = some e →
        ReadsAs k e := by
  have hmembers : ((("kind", Json.text kind.name) :: fields).map Prod.fst).Nodup := hnames
  obtain ⟨ns, rfl, hnodup, hfound, hnone⟩ := h.lookup hmembers
  obtain ⟨⟨j, hkind, hreordered⟩, hfields⟩ := List.forall_mem_cons.1 hfound
  obtain rfl := hreordered.eq_of_text
  refine ⟨fun name => ns.lookup name, hfields, hnone, ?_⟩
  intro e he
  -- what is read from the members is looked up like the members themselves
  have hsingle (name : String) :
      Json.single? (memberReadings ns) name = some ((ns.lookup name).map reading) := by
    have hreadings : ((memberReadings ns).map Prod.fst).Nodup := by
      rw [memberReadings_eq_map, List.map_map]
      exact hnodup
    rw [Json.single?_eq_lookup hreadings, memberReadings_eq_map, lookup_map_snd]
  have hnamed : Json.namedFields? kind.fieldNames (memberReadings ns) =
      some (kind.fieldNames.map fun name => (ns.lookup name).map reading) :=
    Json.mapM_eq_some_map fun name _ => hsingle name
  refine ⟨ns, rfl, fun inner => ?_⟩
  simp only [ofMembers?, hsingle, hkind, Option.map_some, raw_reading, hnamed, Kind.ofJson?_name,
    Option.bind_eq_bind, Option.bind_some, he]

/-- The members of a captured object make up the same map in any order. -/
theorem membersOfJson?_of_reordered {members : NameMap Value} {k : Json}
    (h : Json.Reordered (.object (members.entries.map fun e => (e.1, e.2.toJson))) k) :
    membersOfJson? k = some (members.map Value.kept) := by
  obtain ⟨ms, ns, rfl, hnames, hvalues, hperm⟩ := h.of_object
  -- values hold no objects, so only the members themselves can have moved
  have hms : ms = members.entries.map fun e => (e.1, e.2.toJson) := by
    have hsnd : ms.map Prod.snd = Value.itemsToJson (members.entries.map Prod.snd) :=
      Value.eq_of_reordered_items _
        (by simpa [Value.itemsToJson_eq_map, Function.comp_def] using hvalues)
    rw [List.zip_of_prod hnames.symm hsnd]
    refine (List.zip_of_prod rfl ?_).symm
    simp [Value.itemsToJson_eq_map, Function.comp_def]
  let read (m : String × Json) : String × Value := (m.1, (Value.firstFit? m.2).getD .null)
  have hread : ns.mapM (fun m => (Value.firstFit? m.2).map (m.1, ·)) = some (ns.map read) := by
    refine Json.mapM_eq_some_map ?_
    intro m hm
    have hmem : m ∈ ms := hperm.mem_iff.2 hm
    rw [hms] at hmem
    obtain ⟨e, -, rfl⟩ := List.mem_map.1 hmem
    simp [read, Value.firstFit?_toJson]
  have hentries : (ns.map read).Perm (members.map Value.kept).entries := by
    have hmoved := (hperm.map read).symm
    rw [hms, List.map_map] at hmoved
    simpa [read, Function.comp_def, Value.firstFit?_toJson, NameMap.map] using hmoved
  simp only [membersOfJson?, Json.members?, hread, Option.bind_eq_bind, Option.bind_some,
    NameMap.ofList_of_perm hentries, Option.pure_def]

mutual

/-- The document of an expression is read as the expression with what is kept of its values. -/
theorem readsAs_toJson : ∀ (e : Expr) {k : Json}, e.toJson.Reordered k →
    ReadsAs k (e.mapValues Value.kept)
  | .field path, k, h => by
    obtain ⟨found, hfound, -, hread⟩ := readsAs_of_reordered .field
      [("path", .text path)] (by simp) h
    simp only [List.forall_mem_cons] at hfound
    obtain ⟨⟨_, hfoundPath, hpath⟩, -⟩ := hfound
    apply hread
    simp [Kind.fieldNames, ofFields?, hfoundPath, hpath.eq_of_text, raw_reading, Json.text?,
      mapValues]
  | .constant v, k, h => by
    obtain ⟨found, hfound, -, hread⟩ := readsAs_of_reordered .constant
      [("value", v.toJson)] (by simp) h
    simp only [List.forall_mem_cons] at hfound
    obtain ⟨⟨_, hfoundValue, hvalue⟩, -⟩ := hfound
    apply hread
    simp [Kind.fieldNames, ofFields?, hfoundValue, Value.eq_of_reordered v hvalue, raw_reading,
      Value.firstFit?_toJson, mapValues]
  | .captured name members, k, h => by
    let written (e : String × Value) : String × Json := (e.1, e.2.toJson)
    obtain ⟨found, hfound, -, hread⟩ := readsAs_of_reordered .captured
      [("name", .text name), ("members", .object (members.entries.map written))] (by simp) h
    simp only [List.forall_mem_cons] at hfound
    obtain ⟨⟨_, hfoundName, hname⟩, ⟨_, hfoundMembers, hmembers⟩, -⟩ := hfound
    apply hread
    simp [Kind.fieldNames, ofFields?, hfoundName, hname.eq_of_text, hfoundMembers,
      membersOfJson?_of_reordered hmembers, raw_reading, Json.text?, mapValues]
  | .member target name, k, h => by
    obtain ⟨found, hfound, -, hread⟩ := readsAs_of_reordered .member
      [("target", target.toJson), ("member", .text name)] (by simp) h
    simp only [List.forall_mem_cons] at hfound
    obtain ⟨⟨_, hfoundTarget, htarget⟩, ⟨_, hfoundName, hname⟩, -⟩ := hfound
    have hnode := (readsAs_toJson target htarget).node?_reading
    apply hread
    simp [Kind.fieldNames, ofFields?, hfoundTarget, hnode, hfoundName, hname.eq_of_text,
      raw_reading, Json.text?, mapValues]
  | .binary op left right, k, h => by
    obtain ⟨found, hfound, -, hread⟩ := readsAs_of_reordered .binary
      [("op", .text op.name), ("left", left.toJson), ("right", right.toJson)] (by simp) h
    simp only [List.forall_mem_cons] at hfound
    obtain ⟨⟨_, hfoundOp, hop⟩, ⟨_, hfoundLeft, hleft⟩, ⟨_, hfoundRight, hright⟩, -⟩ := hfound
    have hleftNode := (readsAs_toJson left hleft).node?_reading
    have hrightNode := (readsAs_toJson right hright).node?_reading
    apply hread
    simp [Kind.fieldNames, ofFields?, hfoundOp, hop.eq_of_text, hfoundLeft, hleftNode,
      hfoundRight, hrightNode, raw_reading, opOfJson?, BinaryOp.ofName?_name, mapValues]
  | .not operand, k, h => by
    obtain ⟨found, hfound, -, hread⟩ := readsAs_of_reordered .not
      [("operand", operand.toJson)] (by simp) h
    simp only [List.forall_mem_cons] at hfound
    obtain ⟨⟨_, hfoundOperand, hoperand⟩, -⟩ := hfound
    have hnode := (readsAs_toJson operand hoperand).node?_reading
    apply hread
    simp [Kind.fieldNames, ofFields?, hfoundOperand, hnode, mapValues]
  | .call method none args, k, h => by
    obtain ⟨found, hfound, hnone, hread⟩ := readsAs_of_reordered .call
      [("method", .text method), ("args", .list (argsToJson args))] (by simp) h
    simp only [List.forall_mem_cons] at hfound
    obtain ⟨⟨_, hfoundMethod, hmethod⟩, ⟨_, hfoundArgs, hargs⟩, -⟩ := hfound
    have hfoundTarget : found "target" = none := hnone "target" (by simp)
    have hnodes := nodes?_reading_args args hargs
    apply hread
    simp [Kind.fieldNames, ofFields?, hfoundMethod, hmethod.eq_of_text, hfoundTarget, hfoundArgs,
      hnodes, raw_reading, Json.text?, mapValues, mapTarget]
  | .call method (some target) args, k, h => by
    obtain ⟨found, hfound, -, hread⟩ := readsAs_of_reordered .call
      [("method", .text method), ("target", target.toJson), ("args", .list (argsToJson args))]
      (by simp) h
    simp only [List.forall_mem_cons] at hfound
    obtain ⟨⟨_, hfoundMethod, hmethod⟩, ⟨_, hfoundTarget, htarget⟩, ⟨_, hfoundArgs, hargs⟩, -⟩ :=
      hfound
    have hreads := readsAs_toJson target htarget
    have hnode := hreads.node?_reading
    have hnodes := nodes?_reading_args args hargs
    -- the target is an object, so it is not the null that stands for none
    obtain ⟨ms, rfl, -⟩ := hreads
    apply hread
    simp [Kind.fieldNames, ofFields?, hfoundMethod, hmethod.eq_of_text, hfoundTarget, hnode,
      hfoundArgs, hnodes, raw_reading, Json.text?, mapValues, mapTarget]

theorem nodes?_reading_args (args : List Expr) {k : Json}
    (h : Json.Reordered (.list (argsToJson args)) k) :
    (reading k).nodes? = some (mapArgs Value.kept args) := by
  obtain ⟨ks, rfl, hks⟩ := h.of_list
  rw [reading]
  exact mapM_node?_args args hks

theorem mapM_node?_args : ∀ (args : List Expr) {ks : List Json},
    List.Forall₂ Json.Reordered (argsToJson args) ks →
      (itemReadings ks).mapM (·.node?) = some (mapArgs Value.kept args)
  | [], ks, h => by
    obtain rfl := List.forall₂_nil_left_iff.1 h
    rfl
  | e :: es, ks, h => by
    obtain ⟨k, ks', hfirst, hrest, rfl⟩ := List.forall₂_cons_left_iff.1 h
    rw [itemReadings, List.mapM_cons, (readsAs_toJson e hfirst).node?_reading,
      mapM_node?_args es hrest]
    rfl

end

/-- Whatever the order of members, reading undoes writing but for what is not kept of the values. -/
theorem ofJson?_of_reordered (e : Expr) (j : Json) (h : e.toJson.Reordered j) :
    ofJson? j = some (e.mapValues Value.kept) ∧
      ((∀ v ∈ e.values, v.IsKept) → ofJson? j = some e) := by
  have hread := (readsAs_toJson e h).ofJson?_eq
  refine ⟨hread, ?_⟩
  intro hvalues
  rw [hread, mapValues_eq_self e (fun v hv => (hvalues v hv).kept_eq)]

theorem ofJson?_of_reordered_reversed :
    let u : Uuid := ⟨7⟩
    let members (v : Value) : NameMap Value :=
      ⟨[("at", v), ("ids", .list [.int 1, .null])], List.pairwise_pair.2 (by decide : "at" < "ids")⟩
    let e (v : Value) : Expr :=
      .call "Contains" (some (.captured "scope" (members v))) [.field "Id"]
    let field : Json := .object [("path", .text "Id"), ("kind", .text "field")]
    let moved : Json := .object [("ids", .list [.int 1, .null]), ("at", .text u.text)]
    let scope : Json :=
      .object [("members", moved), ("name", .text "scope"), ("kind", .text "captured")]
    let j : Json := .object [("args", .list [field]), ("target", scope),
      ("method", .text "Contains"), ("kind", .text "call")]
    (e (.uuid u)).toJson.Reordered j ∧
      ofJson? j = some ((e (.uuid u)).mapValues Value.kept) ∧
      (e (.text u.text)).toJson.Reordered j ∧ (∀ v ∈ (e (.text u.text)).values, v.IsKept) ∧
      ofJson? j = some (e (.text u.text)) := by
  intro u members e field moved scope j
  have hreversed (v : Value) (hv : v.toJson = .text u.text) : (e v).toJson.Reordered j := by
    have hfield : (Expr.field "Id").toJson.Reordered field :=
      .object rfl (.cons (.refl _) (.cons (.refl _) .nil)) (List.reverse_perm _).symm
    have hmoved : Json.Reordered
        (.object [("at", v.toJson), ("ids", .list [.int 1, .null])]) moved := by
      rw [hv]
      exact .object rfl (.cons (.refl _) (.cons (.refl _) .nil)) (List.reverse_perm _).symm
    have hscope : (captured "scope" (members v)).toJson.Reordered scope := by
      refine .object ?_ ?_ (List.reverse_perm
        [("kind", .text "captured"), ("name", .text "scope"), ("members", moved)]).symm
      · rfl
      · exact .cons (.refl _) (.cons (.refl _) (.cons hmoved .nil))
    have hargs := Json.Reordered.list (.cons hfield .nil)
    refine .object ?_ ?_ (List.reverse_perm [("kind", .text "call"), ("method", .text "Contains"),
      ("target", scope), ("args", .list [field])]).symm
    · rfl
    · exact .cons (.refl _) (.cons (.refl _) (.cons hscope (.cons hargs .nil)))
  have hwritten := hreversed (.uuid u) rfl
  have hread := hreversed (.text u.text) rfl
  have hvalues : ∀ v ∈ (e (.text u.text)).values, v.IsKept := by
    have hitems : ∀ v ∈ [Value.int 1, .null], v.IsKept :=
      List.forall_mem_cons.2 ⟨.int 1, List.forall_mem_singleton.2 .null⟩
    exact List.forall_mem_cons.2 ⟨.text u.text, List.forall_mem_singleton.2 (.list hitems)⟩
  obtain ⟨hkept, -⟩ := ofJson?_of_reordered (e (.uuid u)) j hwritten
  obtain ⟨-, hsame⟩ := ofJson?_of_reordered (e (.text u.text)) j hread
  exact ⟨hwritten, hkept, hread, hvalues, hsame hvalues⟩

end Expr
end SqlFilter
