import Mathlib.Data.List.Basic
import SqlFilter.ClauseTree.Basic
/-! Conditions as ordered trees in which a run of one connective is one node. Putting a connective
between two flat conditions gives a flat condition again, with the tests of both in order. -/
namespace SqlFilter

/-- A test, or several conditions with one connective between them. -/
inductive Condition (α : Type)
  | test (a : α)
  | joined (op : Connective) (parts : List (Condition α))
deriving Inhabited

namespace Condition
variable {α β : Type}

/-- The connective at the top. -/
def connective? : Condition α → Option Connective
  | .test _ => none
  | .joined op _ => some op

/-- What a condition contributes to a run of a connective: its own parts if it is such a run. -/
def run (op : Connective) : Condition α → List (Condition α)
  | .test a => [.test a]
  | .joined op' parts => if op' = op then parts else [.joined op' parts]

/-- Two conditions with a connective between them, as one run. -/
def merge (op : Connective) (left right : Condition α) : Condition α :=
  .joined op (left.run op ++ right.run op)

mutual

/-- The tests from left to right. -/
def tests : Condition α → List α
  | .test a => [a]
  | .joined _ parts => testsOf parts

def testsOf : List (Condition α) → List α
  | [] => []
  | p :: ps => p.tests ++ testsOf ps

end

mutual

/-- The condition with every test replaced. -/
def map (f : α → β) : Condition α → Condition β
  | .test a => .test (f a)
  | .joined op parts => .joined op (mapParts f parts)

def mapParts (f : α → β) : List (Condition α) → List (Condition β)
  | [] => []
  | p :: ps => p.map f :: mapParts f ps

end

/-- Every node has at least two parts, and none of them has the connective of the node. -/
inductive IsFlat : Condition α → Prop
  | test (a : α) : IsFlat (.test a)
  | joined {op : Connective} {parts : List (Condition α)} (two_le : 2 ≤ parts.length)
      (alternates : ∀ p ∈ parts, p.connective? ≠ some op) (parts_flat : ∀ p ∈ parts, IsFlat p) :
      IsFlat (.joined op parts)

theorem testsOf_eq_flatMap (ps : List (Condition α)) : testsOf ps = ps.flatMap tests := by
  induction ps with
  | nil => rfl
  | cons p ps ih => simp only [testsOf, ih, List.flatMap_cons]

theorem mapParts_eq_map (f : α → β) (ps : List (Condition α)) : mapParts f ps = ps.map (map f) := by
  induction ps with
  | nil => rfl
  | cons p ps ih => simp only [mapParts, ih, List.map_cons]

theorem mem_testsOf {ps : List (Condition α)} {p : Condition α} (hp : p ∈ ps) {a : α}
    (ha : a ∈ p.tests) : a ∈ testsOf ps := by
  rw [testsOf_eq_flatMap]
  exact List.mem_flatMap.2 ⟨p, hp, ha⟩

theorem exists_two_parts {ps : List (Condition α)} (two_le : 2 ≤ ps.length) :
    ∃ p p' rest, ps = p :: p' :: rest := by
  rcases ps with - | ⟨p, - | ⟨p', rest⟩⟩
  · simp at two_le
  · simp at two_le
  · exact ⟨p, p', rest, rfl⟩

theorem testsOf_append (ps qs : List (Condition α)) :
    testsOf (ps ++ qs) = testsOf ps ++ testsOf qs := by
  simp only [testsOf_eq_flatMap, List.flatMap_append]

theorem testsOf_run (op : Connective) (c : Condition α) : testsOf (c.run op) = c.tests := by
  cases c with
  | test a => simp [run, testsOf, tests]
  | joined op' parts =>
    simp only [run]
    split
    · rfl
    · simp [testsOf]

theorem tests_merge (op : Connective) (l r : Condition α) :
    (merge op l r).tests = l.tests ++ r.tests := by
  simp only [merge, tests, testsOf_append, testsOf_run]

theorem tests_ne_nil {c : Condition α} (hc : c.IsFlat) : c.tests ≠ [] := by
  induction hc with
  | test a => simp [tests]
  | joined two_le _ _ ih =>
    obtain ⟨p, p', rest, rfl⟩ := exists_two_parts two_le
    simp [tests, testsOf, ih p List.mem_cons_self]

theorem run_ne_nil (op : Connective) {c : Condition α} (hc : c.IsFlat) : c.run op ≠ [] := by
  cases hc with
  | test a => simp [run]
  | @joined op' parts two_le _ _ =>
    have hne : parts ≠ [] := List.ne_nil_of_length_pos (by omega)
    simp only [run]
    split
    · exact hne
    · simp

theorem isFlat_of_mem_run {op : Connective} {c p : Condition α} (hc : c.IsFlat)
    (hp : p ∈ c.run op) : p.IsFlat ∧ p.connective? ≠ some op := by
  cases hc with
  | test a =>
    obtain rfl := List.mem_singleton.1 hp
    exact ⟨.test a, by simp [connective?]⟩
  | @joined op' parts two_le alternates parts_flat =>
    simp only [run] at hp
    split at hp
    · rename_i hop
      exact ⟨parts_flat p hp, hop ▸ alternates p hp⟩
    · rename_i hop
      obtain rfl := List.mem_singleton.1 hp
      exact ⟨.joined two_le alternates parts_flat, by simpa [connective?] using hop⟩

theorem isFlat_merge (op : Connective) {l r : Condition α} (hl : l.IsFlat) (hr : r.IsFlat) :
    (merge op l r).IsFlat := by
  -- each side gives its parts, or itself if it has the other connective
  have hmem : ∀ p ∈ l.run op ++ r.run op, p.IsFlat ∧ p.connective? ≠ some op := by
    intro p hp
    rcases List.mem_append.1 hp with hp | hp
    · exact isFlat_of_mem_run hl hp
    · exact isFlat_of_mem_run hr hp
  have hl' : 0 < (l.run op).length := List.length_pos_of_ne_nil (run_ne_nil op hl)
  have hr' : 0 < (r.run op).length := List.length_pos_of_ne_nil (run_ne_nil op hr)
  refine .joined ?_ (fun p hp => (hmem p hp).2) (fun p hp => (hmem p hp).1)
  rw [List.length_append]
  omega

/-- A run of a run is the run itself, so a connective associates. -/
theorem merge_assoc (op : Connective) (a b c : Condition α) :
    merge op (merge op a b) c = merge op a (merge op b c) := by
  simp only [merge, run, ↓reduceIte, List.append_assoc]

mutual

theorem tests_map (f : α → β) : ∀ c : Condition α, (c.map f).tests = c.tests.map f
  | .test _ => rfl
  | .joined _ parts => by simp only [map, tests, testsOf_mapParts f parts]

theorem testsOf_mapParts (f : α → β) :
    ∀ ps : List (Condition α), testsOf (mapParts f ps) = (testsOf ps).map f
  | [] => rfl
  | p :: ps => by
    simp only [mapParts, testsOf, tests_map f p, testsOf_mapParts f ps, List.map_append]

end

mutual

theorem map_map {γ : Type} (g : β → γ) (f : α → β) :
    ∀ c : Condition α, (c.map f).map g = c.map (fun a => g (f a))
  | .test _ => rfl
  | .joined _ parts => by simp only [map, mapParts_mapParts g f parts]

theorem mapParts_mapParts {γ : Type} (g : β → γ) (f : α → β) :
    ∀ ps : List (Condition α), mapParts g (mapParts f ps) = mapParts (fun a => g (f a)) ps
  | [] => rfl
  | p :: ps => by simp only [mapParts, map_map g f p, mapParts_mapParts g f ps]

end

mutual

/-- Only what a function makes of the tests matters. -/
theorem map_congr {f g : α → β} :
    ∀ c : Condition α, (∀ a ∈ c.tests, f a = g a) → c.map f = c.map g
  | .test a, h => by simp only [map, h a (by simp [tests])]
  | .joined _ parts, h => by simp only [map, mapParts_congr parts h]

theorem mapParts_congr {f g : α → β} :
    ∀ ps : List (Condition α), (∀ a ∈ testsOf ps, f a = g a) → mapParts f ps = mapParts g ps
  | [], _ => rfl
  | p :: ps, h => by
    simp only [testsOf, List.mem_append] at h
    simp only [mapParts, map_congr p (fun a ha => h a (Or.inl ha)),
      mapParts_congr ps (fun a ha => h a (Or.inr ha))]

end

theorem connective?_map (f : α → β) (c : Condition α) :
    (c.map f).connective? = c.connective? := by
  cases c <;> rfl

theorem isFlat_map (f : α → β) {c : Condition α} (hc : c.IsFlat) : (c.map f).IsFlat := by
  induction hc with
  | test a => exact .test _
  | @joined op parts two_le alternates _ ih =>
    rw [map, mapParts_eq_map]
    refine .joined (by simpa using two_le) ?_ ?_
    · intro q hq
      obtain ⟨p, hp, rfl⟩ := List.mem_map.1 hq
      rw [connective?_map]
      exact alternates p hp
    · intro q hq
      obtain ⟨p, hp, rfl⟩ := List.mem_map.1 hq
      exact ih p hp

theorem map_run (f : α → β) (op : Connective) (c : Condition α) :
    (c.map f).run op = (c.run op).map (map f) := by
  cases c with
  | test a => rfl
  | joined op' parts =>
    simp only [map, run, mapParts_eq_map]
    split <;> simp [map, mapParts_eq_map]

theorem map_merge (f : α → β) (op : Connective) (l r : Condition α) :
    (merge op l r).map f = merge op (l.map f) (r.map f) := by
  simp only [merge, map, mapParts_eq_map, map_run, List.map_append]

end Condition
end SqlFilter
