import SqlFilter.ClauseTree.OfExpr
import SqlFilter.Proofs.Clause
import SqlFilter.Proofs.Condition.Basic
/-! The flat condition of a predicate. The clause tree of a predicate is its flat condition with the
connectives written as links, so nothing depends on how a run of one connective was nested. -/
namespace SqlFilter

namespace Expr

/-- The connective between the two sides of a predicate. -/
def connective? : Expr → Option Connective
  | .binary op _ _ => Connective.ofBinary? op
  | _ => none

/-- The flat condition of a predicate, read off without links. -/
def condition (escape : Bool) : Expr → Except CompileError (Condition Clause)
  | .binary op left right =>
    match Connective.ofBinary? op with
    | some connective => do
      let l ← condition escape left
      let r ← condition escape right
      return .merge connective l r
    | none => return .test (← clause escape (.binary op left right))
  | e => return .test (← clause escape e)

/-- How a predicate with a flat condition is put together. -/
inductive Flattens (escape : Bool) : Expr → Condition Clause → Prop
  | test {e : Expr} {a : Clause} (alone : e.connective? = none) (ha : clause escape e = .ok a) :
      Flattens escape e (.test a)
  | joined {op : BinaryOp} {connective : Connective} {left right : Expr} {l r : Condition Clause}
      (hop : Connective.ofBinary? op = some connective) (hl : Flattens escape left l)
      (hr : Flattens escape right r) :
      Flattens escape (.binary op left right) (.merge connective l r)

theorem connective?_of_ne_binary {e : Expr} (he : ∀ op l r, e = .binary op l r → False) :
    e.connective? = none := by
  cases e with
  | binary op l r => exact (he op l r rfl).elim
  | _ => rfl

theorem condition_of_alone (escape : Bool) {e : Expr} (alone : e.connective? = none) :
    e.condition escape = (clause escape e).map .test := by
  have hmap (x : Except CompileError Clause) :
      (do return Condition.test (← x) : Except CompileError (Condition Clause)) =
        x.map .test := by cases x <;> rfl
  cases e with
  | binary op left right =>
    have hop : Connective.ofBinary? op = none := alone
    simp only [condition, hop, hmap]
  | _ => simp only [condition, hmap]

theorem flattens_of_condition {escape : Bool} {e : Expr} {c : Condition Clause}
    (h : e.condition escape = .ok c) : e.Flattens escape c := by
  fun_induction condition escape e generalizing c with
  | case1 op left right connective hop ihl ihr =>
    obtain ⟨l, hl, h⟩ := bind_eq_ok_iff.1 h
    obtain ⟨r, hr, h⟩ := bind_eq_ok_iff.1 h
    obtain rfl := Except.ok.inj h
    exact .joined hop (ihl hl) (ihr hr)
  | case2 op left right hop =>
    obtain ⟨a, ha, h⟩ := bind_eq_ok_iff.1 h
    obtain rfl := Except.ok.inj h
    exact .test hop ha
  | case3 e he =>
    obtain ⟨a, ha, h⟩ := bind_eq_ok_iff.1 h
    obtain rfl := Except.ok.inj h
    exact .test (connective?_of_ne_binary he) ha

theorem Flattens.condition_eq {escape : Bool} {e : Expr} {c : Condition Clause}
    (h : e.Flattens escape c) : e.condition escape = .ok c := by
  induction h with
  | test alone ha => rw [condition_of_alone escape alone, ha, ok_map]
  | joined hop hl hr ihl ihr => simp only [condition, hop, ihl, ihr, ok_bind, pure_eq_ok]

end Expr

namespace Condition

mutual

/-- The clause tree of a condition that stands after the given link. -/
def tree (link : Option Connective) : Condition Clause → ClauseTree
  | .test clause => .leaf link clause
  | .joined op parts => .group link (trees op none parts)

/-- The siblings of a node, the first of them after the given link. -/
def trees (op : Connective) (link : Option Connective) : List (Condition Clause) → List ClauseTree
  | [] => []
  | p :: ps => p.tree link :: trees op (some op) ps

end

theorem link_tree (link : Option Connective) (c : Condition Clause) : (c.tree link).link = link := by
  cases c <;> simp only [tree, ClauseTree.link]

theorem setLink_tree (link link' : Option Connective) (c : Condition Clause) :
    (c.tree link).setLink link' = c.tree link' := by
  cases c <;> simp only [tree, ClauseTree.setLink]

theorem relinked_trees (op : Connective) (link : Option Connective) (ps : List (Condition Clause)) :
    ClauseTree.relinked op (trees op link ps) = trees op (some op) ps := by
  cases ps with
  | nil => rfl
  | cons p ps => simp only [trees, ClauseTree.relinked, setLink_tree]

theorem trees_append (op : Connective) (link : Option Connective) {ps : List (Condition Clause)}
    (hps : ps ≠ []) (qs : List (Condition Clause)) :
    trees op link (ps ++ qs) = trees op link ps ++ trees op (some op) qs := by
  -- the link before the first part is arbitrary, as it is the connective from the second one on
  induction ps generalizing link with
  | nil => exact absurd rfl hps
  | cons p ps ih =>
    simp only [List.cons_append, trees, List.cons.injEq, true_and]
    cases ps with
    | nil => rfl
    | cons p' ps => exact ih (some op) (by simp)

theorem lastLink_trees_linked (op : Connective) {ps : List (Condition Clause)} (hps : ps ≠ []) :
    ClauseTree.lastLink (trees op (some op) ps) = some op := by
  induction ps with
  | nil => exact absurd rfl hps
  | cons p ps ih =>
    cases ps with
    | nil => simp [trees, ClauseTree.lastLink, link_tree]
    | cons p' ps => simpa [trees, ClauseTree.lastLink] using ih (by simp)

theorem lastLink_trees (op : Connective) {ps : List (Condition Clause)} (hps : 2 ≤ ps.length) :
    ClauseTree.lastLink (trees op none ps) = some op := by
  -- only the first part has no link, and it is not the last
  obtain ⟨p, p', rest, rfl⟩ := exists_two_parts hps
  have hne : p' :: rest ≠ [] := by simp
  have h := lastLink_trees_linked op hne
  simpa [trees, ClauseTree.lastLink] using h

/-- Merging on clause trees is merging on conditions. -/
theorem join_tree (op : Connective) {l r : Condition Clause} (hl : l.IsFlat) (hr : r.IsFlat) :
    ClauseTree.join op (l.tree none) (r.tree (some op)) = (merge op l r).tree none := by
  -- each side either is a run of the connective and is spliced, or stays one child
  cases hl with
  | test a =>
    cases hr with
    | test b => simp [tree, trees, ClauseTree.join, merge, run]
    | @joined opr rs hrs _ _ =>
      simp only [tree, ClauseTree.join, lastLink_trees _ hrs, Option.some.injEq, merge, run]
      split
      · rename_i h
        subst h
        simp [relinked_trees, trees, tree]
      · simp [trees, tree]
  | @joined opl ls hls _ _ =>
    have hne : ls ≠ [] := List.ne_nil_of_length_pos (by omega)
    cases hr with
    | test b =>
      simp only [tree, ClauseTree.join, lastLink_trees _ hls, Option.some.injEq, merge, run]
      split
      · rename_i h
        subst h
        simp [trees_append _ _ hne, trees, tree]
      · simp [trees, tree]
    | @joined opr rs hrs _ _ =>
      simp only [tree, ClauseTree.join, lastLink_trees _ hls, lastLink_trees _ hrs,
        Option.some.injEq, merge, run]
      by_cases hopl : opl = op
      · subst hopl
        by_cases hopr : opr = opl
        · subst hopr
          simp [trees_append _ _ hne, relinked_trees]
        · simp [hopr, trees_append _ _ hne, trees, tree]
      · by_cases hopr : opr = op
        · subst hopr
          simp [hopl, relinked_trees, trees, tree]
        · simp [hopl, hopr, trees, tree]

mutual

theorem clauses_tree (link : Option Connective) :
    ∀ c : Condition Clause, (c.tree link).clauses = c.tests
  | .test _ => by simp only [tree, ClauseTree.clauses, tests]
  | .joined op parts => by
    simp only [tree, ClauseTree.clauses, tests, clausesOf_trees op none parts]

theorem clausesOf_trees (op : Connective) (link : Option Connective) :
    ∀ ps : List (Condition Clause), ClauseTree.clausesOf (trees op link ps) = testsOf ps
  | [] => by simp only [trees, ClauseTree.clausesOf, testsOf]
  | p :: ps => by
    simp only [trees, ClauseTree.clausesOf, testsOf, clauses_tree link p,
      clausesOf_trees op (some op) ps]

end

end Condition

namespace Expr

theorem Flattens.isFlat {escape : Bool} {e : Expr} {c : Condition Clause}
    (h : e.Flattens escape c) : c.IsFlat := by
  induction h with
  | test alone ha => exact .test _
  | joined hop hl hr ihl ihr => exact Condition.isFlat_merge _ ihl ihr

theorem Flattens.sound {escape : Bool} {e : Expr} {c : Condition Clause}
    (h : e.Flattens escape c) : ∀ a ∈ c.tests, a.Sound := by
  induction h with
  | test alone ha =>
    intro a hmem
    obtain rfl := List.mem_singleton.1 (by simpa [Condition.tests] using hmem)
    exact clause_sound ha
  | joined hop hl hr ihl ihr =>
    intro a hmem
    rw [Condition.tests_merge, List.mem_append] at hmem
    exact hmem.elim (ihl a) (ihr a)

theorem Flattens.connective?_eq {escape : Bool} {e : Expr} {c : Condition Clause}
    (h : e.Flattens escape c) : c.connective? = e.connective? := by
  cases h with
  | test alone ha => exact alone.symm
  | joined hop hl hr => exact hop.symm

theorem linkedTree_of_alone (escape : Bool) (link : Option Connective) {e : Expr}
    (alone : e.connective? = none) :
    linkedTree escape link e = (clause escape e).map (.leaf link) := by
  have hmap (x : Except CompileError Clause) :
      (do return ClauseTree.leaf link (← x) : Except CompileError ClauseTree) =
        x.map (.leaf link) := by cases x <;> rfl
  cases e with
  | binary op left right =>
    have hop : Connective.ofBinary? op = none := alone
    simp only [linkedTree, hop, hmap]
  | _ => simp only [linkedTree, hmap]

theorem linkedTree_eq_map (escape : Bool) (link : Option Connective) (e : Expr) :
    linkedTree escape link e = (e.condition escape).map (Condition.tree link) := by
  fun_induction condition escape e generalizing link with
  | case1 op left right connective hop ihl ihr =>
    simp only [linkedTree, hop, ihl, ihr]
    cases hl : left.condition escape with
    | error x => simp
    | ok l =>
      cases hr : right.condition escape with
      | error x => simp
      | ok r =>
        -- joining is merging only for flat sides, and what comes from a predicate is flat
        have hj := Condition.join_tree connective (flattens_of_condition hl).isFlat
          (flattens_of_condition hr).isFlat
        simp [hj, Condition.setLink_tree]
  | case2 op left right hop =>
    rw [linkedTree_of_alone escape link (e := .binary op left right) hop]
    cases clause escape (.binary op left right) <;> simp [Condition.tree]
  | case3 e he =>
    rw [linkedTree_of_alone escape link (connective?_of_ne_binary he)]
    cases clause escape e <;> simp [Condition.tree]

/-- Parsing a predicate is reading off its flat condition. -/
theorem tree_eq_map (escape : Bool) (e : Expr) :
    e.tree escape = (e.condition escape).map (Condition.tree none) :=
  linkedTree_eq_map escape none e

end Expr
end SqlFilter
