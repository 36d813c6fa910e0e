import SqlFilter.Proofs.Condition.Print
/-! Text that nothing can be smuggled into. Names, signs and parentheses are all that a compiled
predicate is made of, but for the one quotation that names the escape character of a pattern. -/
namespace SqlFilter

/-- A character of names, or one of the signs that stand between names. -/
def isInertChar (c : Char) : Bool :=
  isIdentifierChar c || " .,()@=!<>".toList.contains c

/-- What names the escape character of a pattern. -/
def escapeClause : String := " ESCAPE '\\'"

/-- How deep in parentheses a text ends that begins at some depth. There is no answer for a text
that closes more than is open. -/
def depthAfter : Nat → List Char → Option Nat
  | depth, [] => some depth
  | depth, c :: cs =>
    if c = '(' then depthAfter (depth + 1) cs
    else if c = ')' then
      match depth with
      | 0 => none
      | depth + 1 => depthAfter depth cs
    else depthAfter depth cs

/-- Text of inert characters and escape clauses that closes what it opens, and nothing else. -/
structure IsInert (sql : String) : Prop where
  pieces : ∃ pieces : List String, sql = String.join pieces ∧
    ∀ piece ∈ pieces, piece = escapeClause ∨ ∀ c ∈ piece.toList, isInertChar c = true
  balanced : ∀ depth, depthAfter depth sql.toList = some depth

theorem depthAfter_append (depth : Nat) (cs ds : List Char) :
    depthAfter depth (cs ++ ds) = (depthAfter depth cs).bind fun d => depthAfter d ds := by
  induction cs generalizing depth with
  | nil => rfl
  | cons c cs ih =>
    simp only [List.cons_append, depthAfter]
    split
    · exact ih (depth + 1)
    · split
      · cases depth with
        | zero => rfl
        | succ depth => exact ih depth
      · exact ih depth

theorem depthAfter_of_level {cs : List Char} (hcs : ∀ c ∈ cs, c ≠ '(' ∧ c ≠ ')') (depth : Nat) :
    depthAfter depth cs = some depth := by
  induction cs with
  | nil => rfl
  | cons c cs ih =>
    obtain ⟨hopen, hclose⟩ := hcs c List.mem_cons_self
    simp only [depthAfter, if_neg hopen, if_neg hclose]
    exact ih (fun d hd => hcs d (List.mem_cons_of_mem c hd))

/-- Whether a text has inert characters only, and no parenthesis. -/
def isLevel (s : String) : Bool :=
  s.toList.all fun c => isInertChar c && c != '(' && c != ')'

namespace IsInert
variable {s s' : String}

theorem of_level (hs : isLevel s = true) : IsInert s := by
  have hchars : ∀ c ∈ s.toList, isInertChar c = true ∧ c ≠ '(' ∧ c ≠ ')' := by
    intro c hc
    have hchar := List.all_eq_true.1 hs c hc
    simpa [and_assoc] using hchar
  refine ⟨⟨[s], ?_, ?_⟩, depthAfter_of_level (fun c hc => (hchars c hc).2)⟩
  · simp [String.join]
  · intro piece hpiece
    obtain rfl := List.mem_singleton.1 hpiece
    exact Or.inr (fun c hc => (hchars c hc).1)

theorem append (hs : IsInert s) (hs' : IsInert s') : IsInert (s ++ s') := by
  obtain ⟨pieces, hsql, hpieces⟩ := hs.pieces
  obtain ⟨pieces', hsql', hpieces'⟩ := hs'.pieces
  refine ⟨⟨pieces ++ pieces', ?_, ?_⟩, ?_⟩
  · rw [String.join_append, ← hsql, ← hsql']
  · intro piece hpiece
    rcases List.mem_append.1 hpiece with hpiece | hpiece
    · exact hpieces piece hpiece
    · exact hpieces' piece hpiece
  · intro depth
    rw [String.toList_append, depthAfter_append, hs.balanced depth]
    exact hs'.balanced depth

theorem enclosed (hs : IsInert s) : IsInert ("(" ++ s ++ ")") := by
  obtain ⟨pieces, hsql, hpieces⟩ := hs.pieces
  refine ⟨⟨"(" :: pieces ++ [")"], ?_, ?_⟩, ?_⟩
  · rw [String.join_append, String.join_cons, ← hsql]
    simp [String.join]
  · intro piece hpiece
    simp only [List.mem_append, List.mem_cons, List.not_mem_nil, or_false] at hpiece
    rcases hpiece with (rfl | hpiece) | rfl
    · exact Or.inr (List.all_eq_true.1 (by decide))
    · exact hpieces piece hpiece
    · exact Or.inr (List.all_eq_true.1 (by decide))
  · intro depth
    -- one deeper inside, and back again with the last parenthesis
    have hopening : depthAfter depth "(".toList = some (depth + 1) := rfl
    have hclosing : depthAfter (depth + 1) ")".toList = some depth := rfl
    simp only [String.toList_append, depthAfter_append, hopening, hs.balanced, hclosing,
      Option.bind_some]

theorem empty : IsInert "" :=
  of_level (by decide)

theorem escape : IsInert escapeClause := by
  refine ⟨⟨[escapeClause], ?_, ?_⟩, fun depth => rfl⟩
  · simp [String.join]
  · intro piece hpiece
    exact Or.inl (List.mem_singleton.1 hpiece)

theorem of_isIdentifier (hs : isIdentifier s = true) : IsInert s := by
  refine of_level (List.all_eq_true.2 ?_)
  intro c hc
  have hchar := (isIdentifierChar_of_isIdentifier hs).2 c hc
  have hopen : c ≠ '(' := by
    rintro rfl
    exact absurd hchar (by decide)
  have hclose : c ≠ ')' := by
    rintro rfl
    exact absurd hchar (by decide)
  simp [isInertChar, hchar, hopen, hclose]

end IsInert

theorem Operator.isInert_token {op : Operator} {v : Value} (h : op.Suits v) :
    IsInert op.token := by
  cases op with
  -- a verbatim sign could be any text, but it suits no value
  | verbatim token => exact h.elim
  | _ => exact .of_level (by decide)

namespace Condition

theorem isInert_test (escape : Bool) (index : Nat) {t : Test} (ht : t.Readable) :
    IsInert (t.print escape index).sql := by
  have hblank : IsInert " " := .of_level (by decide)
  have hat : IsInert " @" := .of_level (by decide)
  cases t with
  | isNull field => exact (IsInert.of_isIdentifier ht).append (.of_level (by decide))
  | isNotNull field => exact (IsInert.of_isIdentifier ht).append (.of_level (by decide))
  | against field op v =>
    obtain ⟨hfield, hop⟩ := ht
    have hname : IsInert (numberedName field index) :=
      .of_isIdentifier (isIdentifier_numberedName hfield index)
    -- only here can a quote get into the text
    have hending : IsInert (if escape && op.isPatternMatch then " ESCAPE '\\'" else "") := by
      split
      · exact .escape
      · exact .empty
    have hcompared := ((IsInert.of_isIdentifier hfield).append hblank).append
      (Operator.isInert_token hop)
    exact ((hcompared.append hat).append hname).append hending

theorem keeps_isInert (escape : Bool) :
    Keeps escape (fun q => IsInert q.sql) (fun q => IsInert q.sql) where
  nothing := ⟨.empty, .empty⟩
  test index t ht := isInert_test escape index ht
  enclosed hq := hq.enclosed
  run hq hr := hq.append hr
  further op q r hq hr := by
    have hconnective : IsInert (" " ++ op.token ++ " ") := by
      cases op <;> exact .of_level (by decide)
    exact (hconnective.append hq).append hr

end Condition

/-- Whatever a predicate is made of, what it compiles to is inert. -/
theorem Expr.isInert_compile {compiler : Compiler} {e : Expr} {q : Query}
    (h : compiler.compile e = .ok q) : IsInert q.sql := by
  obtain ⟨c, hc, rfl⟩ := compile_eq_ok h
  exact (Condition.keeps_isInert _).print 0 hc.readable

end SqlFilter
