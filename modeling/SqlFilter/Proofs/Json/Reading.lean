import Mathlib.Data.List.Forall2
import SqlFilter.Value.Json
/-! The two ways to read a document as a value: by its shape, and as the first kind of value that it
fits. They read the same, whatever would be taken for a moment or an identifier, since a text fits as
a text before either is tried; and both refuse just the documents with an object in them. -/
namespace SqlFilter

mutual

/-- Whether a document is an object, or a list with one inside. -/
def Json.holdsObject : Json → Bool
  | .object _ => true
  | .list items => anyHoldsObject items
  | _ => false

def Json.anyHoldsObject : List Json → Bool
  | [] => false
  | j :: js => j.holdsObject || anyHoldsObject js

end

/-- The document stands somewhere in another one, or is that one. -/
inductive Json.OccursIn (k : Json) : Json → Prop
  | self : OccursIn k k
  | item {j : Json} {items : List Json} (hj : j ∈ items) (h : OccursIn k j) :
      OccursIn k (.list items)
  | member {name : String} {j : Json} {members : List (String × Json)}
      (hj : (name, j) ∈ members) (h : OccursIn k j) : OccursIn k (.object members)

theorem Json.anyHoldsObject_eq_any (js : List Json) : anyHoldsObject js = js.any holdsObject := by
  induction js with
  | nil => rfl
  | cons j js ih => rw [anyHoldsObject, ih, List.any_cons]

mutual

theorem Json.exists_object_of_holdsObject : ∀ {j : Json}, j.holdsObject = true →
    ∃ members, (Json.object members).OccursIn j
  | .object members, _ => ⟨members, .self⟩
  | .list items, h => by
    obtain ⟨members, j, hj, hoccurs⟩ := exists_object_of_anyHoldsObject h
    exact ⟨members, .item hj hoccurs⟩

theorem Json.exists_object_of_anyHoldsObject : ∀ {js : List Json}, anyHoldsObject js = true →
    ∃ members, ∃ j ∈ js, (Json.object members).OccursIn j
  | j :: js, h => by
    rw [anyHoldsObject, Bool.or_eq_true] at h
    rcases h with hfirst | hrest
    · obtain ⟨members, hoccurs⟩ := exists_object_of_holdsObject hfirst
      exact ⟨members, j, List.mem_cons_self, hoccurs⟩
    · obtain ⟨members, i, hi, hoccurs⟩ := exists_object_of_anyHoldsObject hrest
      exact ⟨members, i, List.mem_cons_of_mem j hi, hoccurs⟩

end

theorem Json.holdsObject_iff (j : Json) :
    j.holdsObject = true ↔ ∃ members, (Json.object members).OccursIn j := by
  refine ⟨exists_object_of_holdsObject, ?_⟩
  rintro ⟨members, h⟩
  induction h with
  | self => rfl
  | item hj _ ih =>
    rw [holdsObject, anyHoldsObject_eq_any]
    exact List.any_eq_true.2 ⟨_, hj, ih⟩
  | member _ _ _ => rfl

namespace Value

mutual

theorem isSome_ofJson? : ∀ j : Json, (ofJson? j).isSome = !j.holdsObject
  | .null | .bool _ | .int _ | .float _ | .text _ | .object _ => by
    simp [ofJson?, Json.holdsObject]
  | .list items => by
    simp [ofJson?, Json.holdsObject, isSome_itemsOfJson? items]

theorem isSome_itemsOfJson? : ∀ js : List Json,
    (itemsOfJson? js).isSome = !Json.anyHoldsObject js
  | [] => rfl
  | j :: js => by
    have hj := isSome_ofJson? j
    have hjs := isSome_itemsOfJson? js
    rw [itemsOfJson?, Json.anyHoldsObject, Bool.not_or, ← hj, ← hjs]
    cases ofJson? j <;> cases itemsOfJson? js <;> rfl

end

theorem ofJson?_eq_none_iff (j : Json) :
    ofJson? j = none ↔ ∃ members, (Json.object members).OccursIn j := by
  rw [← Json.holdsObject_iff, ← Option.not_isSome_iff_eq_none, isSome_ofJson?]
  simp

end Value

/-- What a document stands for. A number that no integer of sixty-four bits is stands for the nearest
float, and a text for nothing but itself. -/
inductive Json.StandsFor : Json → Value → Prop
  | null : StandsFor .null .null
  | bool (b : Bool) : StandsFor (.bool b) (.bool b)
  | int {n : Int} {m : Int64} (hm : m.toInt = n) : StandsFor (.int n) (.int m)
  | wide {n : Int} (hn : n < -9223372036854775808 ∨ 9223372036854775807 < n) :
      StandsFor (.int n) (.float (Decimal.ofInt n))
  | float (x : Float) : StandsFor (.float x) (.float x)
  | text (s : String) : StandsFor (.text s) (.text s)
  | list {items : List Json} {vs : List Value} (h : List.Forall₂ StandsFor items vs) :
      StandsFor (.list items) (.list vs)

namespace Value

theorem ofInteger_eq_iff {n : Int} {v : Value} :
    ofInteger n = v ↔ (Json.int n).StandsFor v := by
  unfold ofInteger fitsInt64
  split
  · rename_i hfits
    simp only [decide_eq_true_eq] at hfits
    have hn : (Int64.ofInt n).toInt = n := Int64.toInt_ofInt_of_le (by omega) (by omega)
    constructor
    · rintro rfl
      exact .int hn
    · intro h
      cases h with
      | int hm => rw [← hm, Int64.ofInt_toInt]
      | wide hwide => omega
  · rename_i hfits
    simp only [decide_eq_true_eq] at hfits
    constructor
    · rintro rfl
      exact .wide (by omega)
    · intro h
      cases h with
      | @int _ m hm =>
        have hlow := m.le_toInt
        have hhigh := m.toInt_lt
        omega
      | wide _ => rfl

mutual

theorem ofJson?_eq_some_iff : ∀ (j : Json) {v : Value}, ofJson? j = some v ↔ j.StandsFor v
  | .null, v | .bool _, v | .float _, v | .text _, v => by
    constructor
    · rintro ⟨⟩
      constructor
    · rintro ⟨⟩
      rfl
  | .int n, v => by
    rw [ofJson?, Option.some.injEq, ofInteger_eq_iff]
  | .object members, v => by
    constructor
    · rintro ⟨⟩
    · rintro ⟨⟩
  | .list items, v => by
    rw [ofJson?, Option.map_eq_some_iff]
    constructor
    · rintro ⟨vs, hvs, rfl⟩
      exact .list ((itemsOfJson?_eq_some_iff items).1 hvs)
    · intro h
      cases h with
      | list hitems => exact ⟨_, (itemsOfJson?_eq_some_iff items).2 hitems, rfl⟩

theorem itemsOfJson?_eq_some_iff : ∀ (js : List Json) {vs : List Value},
    itemsOfJson? js = some vs ↔ List.Forall₂ Json.StandsFor js vs
  | [], vs => by
    rw [itemsOfJson?, Option.some.injEq, List.forall₂_nil_left_iff, eq_comm]
  | j :: js, vs => by
    rw [List.forall₂_cons_left_iff]
    simp only [← ofJson?_eq_some_iff j, ← itemsOfJson?_eq_some_iff js]
    cases hj : ofJson? j with
    | none => simp [itemsOfJson?, hj]
    | some v =>
      cases hjs : itemsOfJson? js with
      | none => simp [itemsOfJson?, hj, hjs]
      | some ws => simp [itemsOfJson?, hj, hjs, eq_comm]

end

/-- Reads a list whose items can all be read. -/
def readList? (item : Json → Option Value) : Json → Option Value
  | .list items => (items.mapM item).map .list
  | _ => none

/-- Reads a text that has a certain form. -/
def readForm? {α : Type} (form : String → Option α) (value : α → Value) : Json → Option Value
  | .text s => (form s).map value
  | _ => none

/-- All kinds of values in the order in which they are tried. Which texts are moments or identifiers
is left open. -/
def readings (moment : String → Option Instant) (identifier : String → Option Uuid)
    (item : Json → Option Value) : List (Json → Option Value) :=
  [readNull?, readBool?, readInt?, readFloat?, readText?, readList? item,
    readForm? moment .timestamp, readForm? identifier .uuid]

/-- Any document is read as the first kind that it fits, and so are the items of a list. -/
def TriesInTurn (moment : String → Option Instant) (identifier : String → Option Uuid)
    (read : Json → Option Value) : Prop :=
  ∀ j, read j = (readings moment identifier read).findSome? (· j)

theorem readInt?_or_readFloat? (n : Int) :
    (readInt? (.int n)).or (readFloat? (.int n)) = some (ofInteger n) := by
  rw [readInt?, readFloat?, ofInteger]
  split <;> rfl

/-- A document other than a list is settled by the kinds before the lists, unless no kind fits. -/
theorem findSome?_scalarReadings {j : Json} (hj : j.items? = none) :
    scalarReadings.findSome? (· j) = ofJson? j := by
  cases j with
  | null | bool b | float x | text s | object members => rfl
  | int n =>
    rw [ofJson?, ← readInt?_or_readFloat?]
    simp only [scalarReadings, List.findSome?_cons, List.findSome?_nil, readNull?, readBool?]
    cases readInt? (.int n) <;> rfl
  | list items => simp [Json.items?] at hj

theorem firstFit?_of_scalar {j : Json} (hj : j.items? = none) : firstFit? j = ofJson? j := by
  rw [← findSome?_scalarReadings hj]
  cases j with
  | list items => simp [Json.items?] at hj
  | _ => rfl

mutual

theorem firstFit?_eq_ofJson? : ∀ j : Json, firstFit? j = ofJson? j
  | .list items => by
    rw [firstFit?, firstFitItems?_eq_itemsOfJson? items, ofJson?]
  | .null | .bool _ | .int _ | .float _ | .text _ | .object _ => firstFit?_of_scalar rfl

theorem firstFitItems?_eq_itemsOfJson? : ∀ js : List Json, firstFitItems? js = itemsOfJson? js
  | [] => rfl
  | j :: js => by
    rw [firstFitItems?, firstFit?_eq_ofJson? j, firstFitItems?_eq_itemsOfJson? js, itemsOfJson?]

end

theorem itemsOfJson?_cons (j : Json) (js : List Json) : itemsOfJson? (j :: js) =
    (ofJson? j).bind fun v => (itemsOfJson? js).bind fun vs => some (v :: vs) := by
  rw [itemsOfJson?]
  cases ofJson? j <;> cases itemsOfJson? js <;> rfl

theorem itemsOfJson?_eq_mapM (js : List Json) : itemsOfJson? js = js.mapM ofJson? := by
  induction js with
  | nil => rfl
  | cons j js ih =>
    rw [itemsOfJson?_cons, ih, List.mapM_cons]
    rfl

section
variable {moment : String → Option Instant} {identifier : String → Option Uuid}
  {read : Json → Option Value}

/-- Lists are tried after the kinds without parts, moments and identifiers after lists. -/
theorem readings_eq_append : readings moment identifier read = scalarReadings ++
    [readList? read, readForm? moment .timestamp, readForm? identifier .uuid] := rfl

theorem findSome?_readings_of_scalar {j : Json} (hj : j.items? = none) :
    (readings moment identifier read).findSome? (· j) = ofJson? j := by
  rw [readings_eq_append, List.findSome?_append, findSome?_scalarReadings hj]
  cases j with
  | list items => simp [Json.items?] at hj
  | _ => rfl

theorem findSome?_readings_list (items : List Json) :
    (readings moment identifier read).findSome? (· (.list items)) =
      (items.mapM read).map .list := by
  have hnone : scalarReadings.findSome? (· (Json.list items)) = none := rfl
  rw [readings_eq_append, List.findSome?_append, hnone, Option.none_or, List.findSome?_cons,
    readList?]
  cases items.mapM read <;> rfl

theorem triesInTurn_ofJson? : TriesInTurn moment identifier ofJson? := by
  intro j
  cases j with
  | list items => rw [findSome?_readings_list, ofJson?, itemsOfJson?_eq_mapM]
  | _ => rw [findSome?_readings_of_scalar rfl]

mutual

theorem TriesInTurn.eq_ofJson? (h : TriesInTurn moment identifier read) :
    ∀ j : Json, read j = ofJson? j
  | .list items => by
    rw [h, findSome?_readings_list, h.mapM_eq_itemsOfJson? items, ofJson?]
  | .null | .bool _ | .int _ | .float _ | .text _ | .object _ => by
    rw [h, findSome?_readings_of_scalar rfl]

theorem TriesInTurn.mapM_eq_itemsOfJson? (h : TriesInTurn moment identifier read) :
    ∀ js : List Json, js.mapM read = itemsOfJson? js
  | [] => rfl
  | j :: js => by
    rw [List.mapM_cons, h.eq_ofJson? j, h.mapM_eq_itemsOfJson? js, itemsOfJson?_cons]
    rfl

end

theorem triesInTurn_iff : TriesInTurn moment identifier read ↔ read = ofJson? := by
  constructor
  · intro h
    exact funext h.eq_ofJson?
  · rintro rfl
    exact triesInTurn_ofJson?

end

/-- Reading by shape and reading as the first kind that fits give the same value for any document. It
is the value that the document stands for, never a moment or an identifier; a document is refused just
where an object stands anywhere in it. There is no other way to try all kinds in turn, whichever texts
are taken for moments and identifiers. -/
theorem readings_agree :
    (∀ j v, ofJson? j = some v ↔ firstFit? j = some v) ∧
      (∀ j, (ofJson? j = none ↔ ∃ members, (Json.object members).OccursIn j) ∧
        (firstFit? j = none ↔ ∃ members, (Json.object members).OccursIn j)) ∧
      (∀ j v, ofJson? j = some v ↔ j.StandsFor v) ∧
      ∀ moment identifier read, TriesInTurn moment identifier read ↔ read = firstFit? := by
  have hagree : firstFit? = ofJson? := funext firstFit?_eq_ofJson?
  rw [hagree]
  refine ⟨fun _ _ => Iff.rfl, fun j => ⟨ofJson?_eq_none_iff j, ofJson?_eq_none_iff j⟩,
    fun j _ => ofJson?_eq_some_iff j, ?_⟩
  intro moment identifier read
  exact triesInTurn_iff

/-- The text of a moment is a text, the first integer of more than sixty-four bits with a sign is a
float, and an object deep inside spoils the whole list. -/
example : firstFit? (.list [.text "2024-01-01T00:00:00Z", .int 9223372036854775808]) =
      some (.list [.text "2024-01-01T00:00:00Z", .float (Decimal.ofInt 9223372036854775808)]) ∧
    firstFit? (.list [.int 1, .list [.null, .object []]]) = none := ⟨rfl, rfl⟩

end Value
end SqlFilter
