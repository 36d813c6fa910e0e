import Mathlib.Data.List.Induction
import SqlFilter.Proofs.Declared
import SqlFilter.Proofs.Reading.OfPrint
/-! The list of the fields that a predicate tests, beside the query of the predicate. Both are taken
from one flat condition, so either both are there or the fault is the same. The list names what the
text of the query tests, and the parameters are numbered fields of the list. -/
namespace SqlFilter

/-- The members of a list, each of them once and in the order of their first places. -/
structure FirstPlaces {α : Type} [DecidableEq α] (xs ys : List α) : Prop where
  nodup : ys.Nodup
  mem_iff (x : α) : x ∈ ys ↔ x ∈ xs
  ordered : ys.Pairwise fun x y => xs.idxOf x < xs.idxOf y

namespace FirstPlaces
variable {α : Type} [DecidableEq α] {xs ys : List α} {x : α}

theorem nil : FirstPlaces ([] : List α) [] :=
  ⟨List.nodup_nil, fun _ => Iff.rfl, .nil⟩

/-- What stands further back leaves the first places before it as they are. -/
theorem ordered_append (h : FirstPlaces xs ys) (more : List α) :
    ys.Pairwise fun y z => (xs ++ more).idxOf y < (xs ++ more).idxOf z := by
  refine h.ordered.imp_of_mem ?_
  intro y z hy hz hlt
  rwa [List.idxOf_append_of_mem ((h.mem_iff y).1 hy), List.idxOf_append_of_mem ((h.mem_iff z).1 hz)]

theorem append_old (h : FirstPlaces xs ys) (hx : x ∈ xs) : FirstPlaces (xs ++ [x]) ys := by
  refine ⟨h.nodup, ?_, h.ordered_append [x]⟩
  intro y
  rw [h.mem_iff, List.mem_append, List.mem_singleton]
  constructor
  · exact Or.inl
  · rintro (hy | rfl)
    · exact hy
    · exact hx

theorem append_new (h : FirstPlaces xs ys) (hx : x ∉ xs) : FirstPlaces (xs ++ [x]) (ys ++ [x]) := by
  have hfresh : x ∉ ys := fun hmem => hx ((h.mem_iff x).1 hmem)
  refine ⟨?_, ?_, ?_⟩
  · exact h.nodup.append (List.nodup_singleton x) (List.disjoint_singleton.2 hfresh)
  · intro y
    rw [List.mem_append, List.mem_append, h.mem_iff]
  · refine List.pairwise_append.2 ⟨h.ordered_append [x], List.pairwise_singleton _ x, ?_⟩
    -- the new member has its first place behind all places there were
    intro y hy z hz
    obtain rfl := List.mem_singleton.1 hz
    have hyxs : y ∈ xs := (h.mem_iff y).1 hy
    have hplace : xs.idxOf y < xs.length := List.idxOf_lt_length_iff.2 hyxs
    rw [List.idxOf_append_of_mem hyxs, List.idxOf_append_of_notMem hx]
    omega

end FirstPlaces

/-- Erasing what was there before keeps every member at its first place. -/
theorem firstPlaces_eraseDups {α : Type} [DecidableEq α] (xs : List α) :
    FirstPlaces xs xs.eraseDups := by
  -- from the front, as each member is compared with those before it
  induction xs using List.reverseRecOn with
  | nil => exact .nil
  | append_singleton xs x ih =>
    rw [List.eraseDups_append]
    by_cases hx : x ∈ xs
    · have hnothing : [x].removeAll xs = [] := by simp [List.removeAll, hx]
      rw [hnothing, List.eraseDups_nil, List.append_nil]
      exact ih.append_old hx
    · have hitself : [x].removeAll xs = [x] := by simp [List.removeAll, hx]
      have honce : [x].eraseDups = [x] := by
        rw [List.eraseDups_cons, List.filter_nil, List.eraseDups_nil]
      rw [hitself, honce]
      exact ih.append_new hx

namespace Condition

/-- The fields of the tests, from left to right. -/
def fields (c : Condition Test) : List String :=
  c.tests.map Test.field

theorem fields_map_test (c : Condition Clause) :
    (c.map Clause.test).fields = c.tests.map (·.field) := by
  rw [fields, tests_map, List.map_map]
  exact List.map_congr_left fun a _ => a.field_test

theorem name_of_getElem?_parameters {escape : Bool} {c : Condition Test} {k : Nat} {p : Parameter}
    (h : (c.print escape 0).parameters[k]? = some p) :
    ∃ f ∈ c.fields, p.name = numberedName f k := by
  rw [parameters_print] at h
  obtain ⟨b, hb, hname⟩ := name_of_getElem?_numbered h
  obtain ⟨t, ht, hbound⟩ := List.mem_filterMap.1 hb
  refine ⟨t.field, List.mem_map_of_mem ht, ?_⟩
  rw [Test.field_of_bound? hbound, hname]

end Condition

namespace Expr

theorem fieldNames_eq_map (e : Expr) :
    e.fieldNames = (e.condition false).map fun c => (c.map Clause.test).fields.eraseDups := by
  unfold fieldNames
  rw [tree_eq_map]
  cases e.condition false with
  | error x => rfl
  | ok c =>
    simp only [ok_map, ok_bind, pure_eq_ok, Condition.clauses_tree, Condition.fields_map_test]

theorem compile_eq_map (e : Expr) :
    e.compile = (e.condition false).map fun c => (c.map Clause.test).print false 0 :=
  Compiler.compile_alone .default e

/-- The names are those of the fields that the query tests, in the order in which its text first
tests them, and a parameter is one of them with its number. Without a query there are no names
either, for the same reason. -/
theorem paired_fieldNames_compile (e : Expr) :
    Paired (fun names q => (∃ c, q.condition? = some c ∧ FirstPlaces c.fields names) ∧
      ∀ k p, q.parameters[k]? = some p → ∃ f ∈ names, p.name = numberedName f k)
      e.fieldNames e.compile := by
  rw [fieldNames_eq_map, compile_eq_map]
  refine Paired.map (R := fun c d => c = d ∧ e.Flattens false c) (paired_self ?_) ?_
  · intro c hc
    exact ⟨rfl, flattens_of_condition hc⟩
  · rintro c d ⟨rfl, hflat⟩
    -- the text of the query says the condition that the names are taken from
    have hfirst := firstPlaces_eraseDups (c.map Clause.test).fields
    refine ⟨⟨c.map Clause.test, hflat.condition?_print, hfirst⟩, ?_⟩
    intro k p hp
    obtain ⟨f, hf, hname⟩ := Condition.name_of_getElem?_parameters hp
    exact ⟨f, (hfirst.mem_iff f).2 hf, hname⟩

/-- A nested path and the field that it runs together to are one name, though only one of them binds
a value. -/
example :
    let city : Expr := .binary .eq (.field "Address.City") (.constant .null)
    let name : Expr := .call "StartsWith" (some (.field "Name")) [.constant (.text "A")]
    let e : Expr := .binary .and (.binary .or city name) (.not (.field "AddressCity"))
    e.fieldNames = .ok ["AddressCity", "Name"] := by rfl

end Expr
end SqlFilter
