import SqlFilter.Proofs.Json.Reordered
import SqlFilter.Value.Json
/-! Values as they come back from documents. A moment or an identifier comes back as its text and a
float that is no finite number as null; anything else comes back as it was. -/
namespace SqlFilter.Value

mutual

/-- What is kept of a value in a document. -/
def kept : Value → Value
  | .null => .null
  | .bool b => .bool b
  | .int n => .int n
  | .float x => if x.isFinite then .float x else .null
  | .text s => .text s
  | .list items => .list (keptItems items)
  | .timestamp t => .text t.zuluText
  | .uuid u => .text u.text

def keptItems : List Value → List Value
  | [] => []
  | v :: vs => v.kept :: keptItems vs

end

/-- A value of which a document keeps everything. -/
inductive IsKept : Value → Prop
  | null : IsKept .null
  | bool (b : Bool) : IsKept (.bool b)
  | int (n : Int64) : IsKept (.int n)
  | float {x : Float} (finite : x.isFinite = true) : IsKept (.float x)
  | text (s : String) : IsKept (.text s)
  | list {items : List Value} (items_kept : ∀ v ∈ items, IsKept v) : IsKept (.list items)

theorem keptItems_eq_map (vs : List Value) : keptItems vs = vs.map kept := by
  induction vs with
  | nil => rfl
  | cons v vs ih => simp only [keptItems, ih, List.map_cons]

theorem itemsToJson_eq_map (vs : List Value) : itemsToJson vs = vs.map toJson := by
  induction vs with
  | nil => rfl
  | cons v vs ih => simp only [itemsToJson, ih, List.map_cons]

theorem IsKept.kept_eq {v : Value} (h : v.IsKept) : v.kept = v := by
  induction h with
  | null | bool _ | int _ | text _ => rfl
  | float finite => rw [kept, if_pos finite]
  | list _ ih =>
    have hitems := List.map_congr_left (g := id) ih
    rw [kept, keptItems_eq_map, hitems, List.map_id]

theorem fitsInt64_toInt (n : Int64) : fitsInt64 n.toInt = true := by
  have hlow := n.le_toInt
  have hhigh := n.toInt_lt
  simp only [fitsInt64, decide_eq_true_eq]
  omega

mutual

theorem firstFit?_toJson : ∀ v : Value, firstFit? v.toJson = some v.kept
  | .null | .bool _ | .text _ | .timestamp _ | .uuid _ => rfl
  | .int n => by
    -- null and truth values are tried before numbers, and neither reads a number
    have hread : readInt? (.int n.toInt) = some (.int n) := by
      rw [readInt?, if_pos (fitsInt64_toInt n), Int64.ofInt_toInt]
    simp only [toJson, firstFit?, scalarReadings, List.findSome?_cons, readNull?, readBool?, hread,
      kept]
  | .float x => by
    rw [toJson, kept]
    split
    · rfl
    · rfl
  | .list items => by
    rw [toJson, firstFit?, firstFitItems?_itemsToJson items, kept, Option.map_some]

theorem firstFitItems?_itemsToJson : ∀ vs : List Value,
    firstFitItems? (itemsToJson vs) = some (keptItems vs)
  | [] => rfl
  | v :: vs => by
    simp only [itemsToJson, firstFitItems?, firstFit?_toJson v, firstFitItems?_itemsToJson vs,
      keptItems]

end

mutual

/-- There is no object in a value, so nothing of it can be reordered. -/
theorem eq_of_reordered : ∀ (v : Value) {k : Json}, v.toJson.Reordered k → k = v.toJson
  | .null, _, h | .bool _, _, h | .int _, _, h | .text _, _, h | .timestamp _, _, h
  | .uuid _, _, h => by
    cases h
    rfl
  | .float x, k, h => by
    rw [toJson] at h ⊢
    by_cases finite : x.isFinite = true
    · rw [if_pos finite] at h ⊢
      cases h
      rfl
    · rw [if_neg finite] at h ⊢
      cases h
      rfl
  | .list items, k, h => by
    obtain ⟨items', rfl, hitems⟩ := Json.Reordered.of_list h
    rw [toJson, eq_of_reordered_items items hitems]

theorem eq_of_reordered_items : ∀ (vs : List Value) {ks : List Json},
    List.Forall₂ Json.Reordered (itemsToJson vs) ks → ks = itemsToJson vs
  | [], ks, h => List.forall₂_nil_left_iff.1 h
  | v :: vs, ks, h => by
    obtain ⟨k, ks', hfirst, hrest, rfl⟩ := List.forall₂_cons_left_iff.1 h
    rw [eq_of_reordered v hfirst, eq_of_reordered_items vs hrest, itemsToJson]

end

end SqlFilter.Value
