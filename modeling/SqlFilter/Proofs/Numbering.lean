import SqlFilter.Proofs.Condition.Print
/-! The parameters of any clause tree, also of one that no predicate has: with empty groups, groups of
one, links that are mixed or missing, and any texts as fields. One counter runs through the whole text,
so each parameter has the number of its place and no two of them share a name. -/
namespace SqlFilter.ClauseTree

/-- What clauses bind for their fields, from left to right. A clause with null binds nothing. -/
def bound (as : List Clause) : List (String × Value) :=
  (as.filter (! ·.value.isNull)).map fun a => (a.field, a.value)

theorem bound_append (as bs : List Clause) : bound (as ++ bs) = bound as ++ bound bs := by
  rw [bound, List.filter_append, List.map_append, ← bound, ← bound]

theorem parameters_render_clause (escape : Bool) (index : Nat) (a : Clause) :
    (a.render escape index).parameters = numbered index (bound [a]) := by
  unfold Clause.render
  split
  · rename_i hnull
    simp [bound, hnull, numbered]
  · rename_i hvalue
    simp [bound, hvalue, numbered, numberedName, Clause.parameterName]

/-- Text for some clauses, and behind it text for others that goes on counting. -/
theorem parameters_append_of_bound {index : Nat} {q r : Query} {as bs : List Clause}
    (hq : q.parameters = numbered index (bound as))
    (hr : r.parameters = numbered (index + q.parameters.length) (bound bs)) :
    (q ++ r).parameters = numbered index (bound (as ++ bs)) := by
  rw [Query.parameters_append, hr, hq, length_numbered, bound_append, numbered_append]

mutual

/-- The parameters of a node are what its clauses bind, numbered in order from where it starts. -/
theorem parameters_render (escape : Bool) : ∀ (index : Nat) (t : ClauseTree),
    (t.render escape index).parameters = numbered index (bound t.clauses)
  | index, .leaf _ a => by
    rw [render, parameters_render_clause, clauses]
  | _, .group _ [] => rfl
  | index, .group _ [child] => by
    simp only [render, clauses, clausesOf, List.append_nil, parameters_render escape index child]
  | index, .group _ (child :: next :: rest) => by
    have hfirst := parameters_render escape index child
    have hrest := parameters_renderRest escape
      (index + (child.render escape index).parameters.length) (next :: rest)
    -- the parentheses bind nothing
    simpa [render, clauses, clausesOf] using parameters_append_of_bound hfirst hrest

theorem parameters_renderRest (escape : Bool) : ∀ (index : Nat) (ts : List ClauseTree),
    (renderRest escape index ts).parameters = numbered index (bound (clausesOf ts))
  | _, [] => rfl
  | index, child :: rest => by
    have hfirst := parameters_render escape index child
    have hrest := parameters_renderRest escape
      (index + (child.render escape index).parameters.length) rest
    -- what stands before the child binds nothing
    simpa [renderRest, clausesOf] using parameters_append_of_bound hfirst hrest

end

theorem parameters_toQuery (escape : Bool) (t : ClauseTree) :
    (t.toQuery escape).parameters = numbered 0 (bound t.clauses) := by
  cases t with
  | leaf link a => exact parameters_render escape 0 (.leaf link a)
  | group link children =>
    cases children with
    | nil => rfl
    | cons child rest =>
      have hfirst := parameters_render escape 0 child
      have hrest := parameters_renderRest escape (0 + (child.render escape 0).parameters.length) rest
      simpa [toQuery, renderChildren, clauses, clausesOf] using
        parameters_append_of_bound hfirst hrest

/-- No two parameters share a name. There is one for each clause with a value other than null, in the
order of the clauses: its field with the number of its place. Looked up by this name it has the value
of the clause. -/
theorem parameters_distinct (escape : Bool) (t : ClauseTree) :
    let q := t.toQuery escape
    let valued := t.clauses.filter (! ·.value.isNull)
    (q.parameters.map (·.name)).Nodup ∧ q.parameters.length = valued.length ∧
      ∀ (k : Nat) (a : Clause), valued[k]? = some a →
        q.parameters[k]? = some ⟨a.parameterName k, a.value⟩ ∧
          q.parameter? (a.parameterName k) = some a.value := by
  intro q valued
  have hps : q.parameters = numbered 0 (valued.map fun a => (a.field, a.value)) :=
    parameters_toQuery escape t
  have hnodup : (q.parameters.map (·.name)).Nodup := by
    rw [hps]
    exact nodup_names_numbered 0 _
  refine ⟨hnodup, ?_, ?_⟩
  · rw [hps, length_numbered, List.length_map]
  · intro k a ha
    have hk : q.parameters[k]? = some ⟨a.parameterName k, a.value⟩ := by
      rw [hps, numbered, List.getElem?_map, List.getElem?_zipIdx, List.getElem?_map, ha]
      simp [numberedName, Clause.parameterName]
    exact ⟨hk, parameterValue?_of_mem hnodup (List.mem_of_getElem? hk)⟩

/-- A field that ends like a numbered name, beside the field whose parameter has that name. -/
example :
    let a : Clause := ⟨"A", .eq, .int 1, false⟩
    let isNull : Clause := ⟨"A", .eq, .null, false⟩
    let t : ClauseTree := .group none [.group none [.leaf none isNull, .leaf (some .or) a],
      .group none [], .leaf (some .and) ⟨"A_p0", .verbatim "~", .int 2, false⟩]
    (t.toQuery false).parameters.map (·.name) = ["A_p0", "A_p0_p1"] := rfl

end SqlFilter.ClauseTree
