import SqlFilter.Proofs.Condition.Operands
/-! How the clause tree of a predicate is grouped. Every group is one run of a connective, no run
stands directly in a run of the same connective, and from left to right the tree has the clauses of
the operands. -/
namespace SqlFilter

namespace ClauseTree

/-- A tree within a tree: the whole of it, or within one of the children. -/
inductive IsWithin (s : ClauseTree) : ClauseTree → Prop
  | self : IsWithin s s
  | child {t : ClauseTree} {link : Option Connective} {children : List ClauseTree}
      (ht : t ∈ children) (hs : IsWithin s t) : IsWithin s (.group link children)

/-- Children with one connective before each of them but the first. A group among them is a run of
the other connective. -/
structure IsRun (op : Connective) (children : List ClauseTree) : Prop where
  two_le : 2 ≤ children.length
  first_link : ∀ t ∈ children.head?, t.link = none
  more_links : ∀ t ∈ children.tail, t.link = some op
  last_link : lastLink children = some op
  alternates : ∀ link parts, .group link parts ∈ children → lastLink parts ≠ some op

end ClauseTree

namespace Condition
open ClauseTree

theorem length_trees (op : Connective) (link : Option Connective) (ps : List (Condition Clause)) :
    (trees op link ps).length = ps.length := by
  induction ps generalizing link with
  | nil => rfl
  | cons p ps ih => simp only [trees, List.length_cons, ih]

theorem mem_trees {op : Connective} {link : Option Connective} {ps : List (Condition Clause)}
    {t : ClauseTree} (ht : t ∈ trees op link ps) : ∃ p ∈ ps, ∃ link', t = p.tree link' := by
  induction ps generalizing link with
  | nil => simp [trees] at ht
  | cons p ps ih =>
    rw [trees, List.mem_cons] at ht
    rcases ht with rfl | ht
    · exact ⟨p, List.mem_cons_self, link, rfl⟩
    · obtain ⟨q, hq, link', rfl⟩ := ih ht
      exact ⟨q, List.mem_cons_of_mem p hq, link', rfl⟩

theorem link_of_mem_trees {op : Connective} {ps : List (Condition Clause)} {t : ClauseTree}
    (ht : t ∈ trees op (some op) ps) : t.link = some op := by
  induction ps with
  | nil => simp [trees] at ht
  | cons p ps ih =>
    rw [trees, List.mem_cons] at ht
    rcases ht with rfl | ht
    · exact link_tree (some op) p
    · exact ih ht

/-- The run of a group is told by the connective of its condition. -/
theorem lastLink_of_tree_eq {p : Condition Clause} (hp : p.IsFlat)
    {link link' : Option Connective} {parts : List ClauseTree}
    (h : p.tree link = .group link' parts) : lastLink parts = p.connective? := by
  cases hp with
  | test a => simp [tree] at h
  | @joined op ps two_le _ _ =>
    rw [tree, ClauseTree.group.injEq] at h
    obtain ⟨-, rfl⟩ := h
    exact lastLink_trees op two_le

theorem isRun_trees {op : Connective} {ps : List (Condition Clause)}
    (h : (Condition.joined op ps).IsFlat) : IsRun op (trees op none ps) := by
  cases h with
  | joined two_le alternates parts_flat =>
    have hlast := lastLink_trees op two_le
    have hlength := length_trees op none ps
    obtain ⟨p, p', rest, rfl⟩ := exists_two_parts two_le
    -- the first part stands after nothing, and all others after the connective of the run
    have hsplit : trees op none (p :: p' :: rest) =
        p.tree none :: trees op (some op) (p' :: rest) := by rw [trees]
    refine ⟨by rwa [hlength], ?_, ?_, hlast, ?_⟩
    · intro t ht
      rw [hsplit, List.head?_cons, Option.mem_some_iff] at ht
      rw [← ht]
      exact link_tree none p
    · intro t ht
      rw [hsplit, List.tail_cons] at ht
      exact link_of_mem_trees ht
    · -- a group among the trees is the tree of a part, so its run is told by the part
      intro link parts hmem
      obtain ⟨q, hq, link', hgroup⟩ := mem_trees hmem
      rw [lastLink_of_tree_eq (parts_flat q hq) hgroup.symm]
      exact alternates q hq

/-- What stands within the tree of a flat condition is the tree of a flat condition again. -/
theorem isFlat_of_isWithin {s : ClauseTree} {c : Condition Clause} (hc : c.IsFlat)
    {link : Option Connective} (h : s.IsWithin (c.tree link)) :
    ∃ (c' : Condition Clause) (link' : Option Connective), c'.IsFlat ∧ s = c'.tree link' := by
  -- the induction is on the way down to the part, so the condition around it has to be arbitrary
  generalize ht : c.tree link = t at h
  induction h generalizing c link with
  | self => exact ⟨c, link, hc, ht.symm⟩
  | @child t link' children hmem hs ih =>
    cases hc with
    | test a => simp [tree] at ht
    | @joined op ps _ _ parts_flat =>
      rw [tree, ClauseTree.group.injEq] at ht
      obtain ⟨-, rfl⟩ := ht
      obtain ⟨p, hp, link'', rfl⟩ := mem_trees hmem
      exact ih (parts_flat p hp) rfl

theorem isRun_of_isWithin {c : Condition Clause} (hc : c.IsFlat) {link link' : Option Connective}
    {children : List ClauseTree} (h : (ClauseTree.group link' children).IsWithin (c.tree link)) :
    ∃ op, IsRun op children := by
  obtain ⟨c', link'', hc', hgroup⟩ := isFlat_of_isWithin hc h
  cases c' with
  | test a => simp [tree] at hgroup
  | joined op ps =>
    rw [tree, ClauseTree.group.injEq] at hgroup
    obtain ⟨-, rfl⟩ := hgroup
    exact ⟨op, isRun_trees hc'⟩

end Condition

namespace Expr
variable {escape : Bool}

theorem tree_of_alone {e : Expr} (alone : e.connective? = none) :
    e.tree escape = (clause escape e).map (.leaf none) :=
  linkedTree_of_alone escape none alone

/-- Parsed one by one, the operands give the tests of the condition in order. -/
theorem Flattens.mapM_tree_operands {e : Expr} {c : Condition Clause} (h : e.Flattens escape c) :
    (e.operands.mapM fun o => o.tree escape) = .ok (c.tests.map (.leaf none)) := by
  induction h with
  | test alone ha =>
    rw [operands_of_alone alone, List.mapM_cons, List.mapM_nil, tree_of_alone alone, ha]
    rfl
  | joined hop hl hr ihl ihr =>
    rw [operands_of_connective hop, List.mapM_append, ihl, ihr, ok_bind, ok_bind, pure_eq_ok,
      Condition.tests_merge, List.map_append]

/-- The tree of a predicate stands after no connective, every group in it is a run of one connective
and alternates with the groups right in it, and its clauses are those of the operands in order. -/
theorem tree_grouped {e : Expr} {t : ClauseTree} (h : e.tree escape = .ok t) :
    t.link = none ∧
      (∀ link children, (ClauseTree.group link children).IsWithin t →
        ∃ op, ClauseTree.IsRun op children) ∧
      (e.operands.mapM fun o => o.tree escape) = .ok (t.clauses.map (.leaf none)) := by
  rw [tree_eq_map] at h
  obtain ⟨c, hc, rfl⟩ := map_eq_ok_iff.1 h
  have hflattens := flattens_of_condition hc
  refine ⟨Condition.link_tree none c, ?_, ?_⟩
  · intro link children hwithin
    exact Condition.isRun_of_isWithin hflattens.isFlat hwithin
  · rw [Condition.clauses_tree]
    exact hflattens.mapM_tree_operands

theorem tree_grouped_mixed :
    let a : Expr := .field "A"
    let b : Expr := .not (.field "B")
    let e : Expr := .binary .and (.binary .or a b) (.binary .and b (.binary .and a (.binary .or b a)))
    let x : Clause := ⟨"A", .eq, .bool true, false⟩
    let y : Clause := ⟨"B", .eq, .bool false, false⟩
    let inner (link : Option Connective) (p q : Clause) : ClauseTree :=
      .group link [.leaf none p, .leaf (some .or) q]
    let t : ClauseTree := .group none
      [inner none x y, .leaf (some .and) y, .leaf (some .and) x, inner (some .and) y x]
    e.tree false = .ok t ∧
      t.link = none ∧ (∃ op, ClauseTree.IsRun op [.leaf none y, .leaf (some .or) x]) ∧
      (e.operands.mapM fun o => o.tree false) =
        .ok [.leaf none x, .leaf none y, .leaf none y, .leaf none x, .leaf none y, .leaf none x] := by
  intro a b e x y inner t
  have h : e.tree false = .ok t := rfl
  obtain ⟨hlink, hruns, hoperands⟩ := tree_grouped h
  refine ⟨h, hlink, hruns (some .and) _ (.child ?_ .self), hoperands⟩
  simp [inner]

end Expr
end SqlFilter
