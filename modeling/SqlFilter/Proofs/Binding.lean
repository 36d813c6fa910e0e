import SqlFilter.Proofs.Condition.Print
import SqlFilter.Proofs.Template
/-! Compiled predicates bound by position. The text of a compiled predicate is scanned as a template
with its parameters in their places, so binding finds every value and moves nothing else. -/
namespace SqlFilter

/-- The template has the text and the parameters of the query. -/
structure Template.Spells (t : Template) (q : Query) : Prop where
  sql_eq : t.sql = q.sql.toList
  parameters_eq : t.parameters = q.parameters
  delimited : t.Delimited

namespace Query

/-- The text of the query is scanned as a template of the query. -/
def IsTemplated (q : Query) : Prop :=
  ∃ t : Template, t.Spells q ∧ t.Scanned

theorem IsTemplated.append {q r : Query} (hq : q.IsTemplated) (hr : r.IsTemplated)
    (hstop : StopsName r.sql.toList) : (q ++ r).IsTemplated := by
  obtain ⟨t, ht, hscant⟩ := hq
  obtain ⟨u, hu, hscanu⟩ := hr
  rw [← hu.sql_eq] at hstop
  refine ⟨t ++ u, ⟨?_, ?_, Template.delimited_append ht.delimited hu.delimited hstop⟩,
    Template.scanned_append hscant hscanu hstop⟩
  · rw [Template.sql_append, ht.sql_eq, hu.sql_eq, sql_append, String.toList_append]
  · rw [Template.parameters_append, ht.parameters_eq, hu.parameters_eq, parameters_append]

theorem IsTemplated.text_append {q : Query} (hq : q.IsTemplated) {s : String}
    (hat : '@' ∉ s.toList) (hquote : '\'' ∉ s.toList) : (ofText s ++ q).IsTemplated := by
  obtain ⟨t, ht, hscan⟩ := hq
  refine ⟨Template.text s.toList ++ t, ⟨?_, ?_, Template.delimited_text_append hat ht.delimited⟩,
    Template.scanned_text_append hat hquote hscan⟩
  · rw [Template.sql_append, Template.sql_text, ht.sql_eq, sql_append, sql_ofText,
      String.toList_append]
  · rw [Template.parameters_append, Template.parameters_text, ht.parameters_eq, parameters_append,
      parameters_ofText]

theorem IsTemplated.identifier_append {q : Query} (hq : q.IsTemplated) {s : String}
    (hs : isIdentifier s = true) : (ofText s ++ q).IsTemplated := by
  have hat : '@' ∉ s.toList := not_mem_of_isIdentifier hs (by decide)
  have hquote : '\'' ∉ s.toList := not_mem_of_isIdentifier hs (by decide)
  exact hq.text_append hat hquote

theorem isTemplated_empty : (ofText "").IsTemplated :=
  ⟨[], ⟨rfl, rfl, trivial⟩, fun _ _ => rfl⟩

theorem isTemplated_ofText {s : String} (hat : '@' ∉ s.toList) (hquote : '\'' ∉ s.toList) :
    (ofText s).IsTemplated := by
  simpa using isTemplated_empty.text_append hat hquote

theorem isTemplated_reference {p : Parameter} (hname : isIdentifier p.name = true) :
    (⟨"@" ++ p.name, [p]⟩ : Query).IsTemplated := by
  refine ⟨[.parameter p], ⟨?_, rfl, hname, stopsName_nil, trivial⟩,
    Template.scanned_parameter hname⟩
  simp [Template.sql]

theorem isTemplated_escape : (ofText " ESCAPE '\\'").IsTemplated := by
  -- the quotes are closed again, so the scan can be run to its end in the open
  refine ⟨Template.text " ESCAPE '\\'".toList, ⟨rfl, rfl, ?_⟩, fun _ _ => rfl⟩
  have hat : '@' ∉ " ESCAPE '\\'".toList := by decide
  simpa using Template.delimited_text_append hat (t := []) trivial

end Query

theorem Operator.not_mem_token {op : Operator} {v : Value} (hop : op.Suits v) :
    '@' ∉ op.token.toList ∧ '\'' ∉ op.token.toList := by
  cases op with
  | verbatim token => exact hop.elim
  | _ => decide

namespace Condition
open Query

theorem isTemplated_test (escape : Bool) (index : Nat) {t : Test} (ht : t.Readable) :
    (t.print escape index).IsTemplated := by
  cases t with
  | isNull field =>
    have htest : (ofText " IS NULL").IsTemplated := isTemplated_ofText (by decide) (by decide)
    have hprint : (Test.isNull field).print escape index = ofText field ++ ofText " IS NULL" := by
      ext1 <;> simp [Test.print]
    rw [hprint]
    exact htest.identifier_append ht
  | isNotNull field =>
    have htest : (ofText " IS NOT NULL").IsTemplated := isTemplated_ofText (by decide) (by decide)
    have hprint : (Test.isNotNull field).print escape index =
        ofText field ++ ofText " IS NOT NULL" := by
      ext1 <;> simp [Test.print]
    rw [hprint]
    exact htest.identifier_append ht
  | against field op v =>
    obtain ⟨hfield, hop⟩ := ht
    let ending := if escape && op.isPatternMatch then " ESCAPE '\\'" else ""
    have hending : (ofText ending).IsTemplated ∧ StopsName ending.toList := by
      -- neither ending goes on with the name of the parameter
      simp only [ending]
      split
      · exact ⟨isTemplated_escape, stopsName_cons (by decide) _⟩
      · exact ⟨isTemplated_empty, stopsName_nil⟩
    have hreference := isTemplated_reference (p := ⟨numberedName field index, v⟩)
      (isIdentifier_numberedName hfield index)
    obtain ⟨hat, hquote⟩ := Operator.not_mem_token hop
    have hprint : (Test.against field op v).print escape index =
        ofText field ++ (ofText (" " ++ op.token ++ " ") ++
          (⟨"@" ++ numberedName field index, [⟨numberedName field index, v⟩]⟩ ++ ofText ending)) := by
      ext1
      · apply String.toList_inj.1
        simp [Test.print, ending]
      · simp [Test.print]
    rw [hprint]
    exact ((hreference.append hending.1 hending.2).text_append (by simp [hat])
      (by simp [hquote])).identifier_append hfield

/-- Behind a reference only such text can stand that goes on with no name. -/
theorem keeps_isTemplated (escape : Bool) :
    Keeps escape IsTemplated fun q => q.IsTemplated ∧ StopsName q.sql.toList where
  nothing := ⟨isTemplated_empty, isTemplated_empty, stopsName_nil⟩
  test index t ht := isTemplated_test escape index ht
  enclosed {q} hq := by
    have hclosing : (ofText ")").IsTemplated := isTemplated_ofText (by decide) (by decide)
    rw [Query.append_assoc]
    exact (hq.append hclosing (stopsName_cons (by decide) _)).text_append (by decide) (by decide)
  run hq hr := hq.append hr.1 hr.2
  further op q r hq hr := by
    refine ⟨?_, ?_⟩
    · rw [Query.append_assoc]
      exact (hq.append hr.1 hr.2).text_append (by cases op <;> decide) (by cases op <;> decide)
    · simp only [sql_append, sql_ofText, String.toList_append, List.append_assoc]
      exact stopsName_cons (by decide) _

theorem isTemplated_print (escape : Bool) (index : Nat) {c : Condition Test}
    (h : ∀ t ∈ c.tests, t.Readable) : (c.print escape index).IsTemplated :=
  (keeps_isTemplated escape).print index h

end Condition

namespace Expr

/-- Binding a compiled predicate by position puts the placeholders of its values, dealt out in
order, where its references stood, and changes nothing else. -/
theorem bindPositional_compile {compiler : Compiler} {e : Expr} {q : Query}
    (h : compiler.compile e = .ok q) (d : Dialect) :
    ∃ t : Template, t.Spells q ∧
      let values := q.parameters.flatMap fun p => Positional.elements p.value
      let marks := (List.range values.length).map fun i => d.placeholder (i + 1)
      bindPositional d q.sql q.parameters = .ok ⟨String.ofList (t.filled d marks), values⟩ := by
  obtain ⟨c, hc, rfl⟩ := compile_eq_ok h
  let query := (c.map Clause.test).print compiler.options.escapeWildcards 0
  obtain ⟨t, ht, hscan⟩ : query.IsTemplated := Condition.isTemplated_print _ 0 hc.readable
  -- the scan gives the template back, and every name finds the parameter in its place
  have hpieces : Positional.scan .plain query.sql.toList = t.pieces := by
    simpa [ht.sql_eq, Positional.scan] using hscan [] stopsName_nil
  have hbound : ∀ p ∈ t.parameters, parameterValue? query.parameters p.name = some p.value := by
    rw [ht.parameters_eq]
    exact Condition.boundIn_parameters_print _ 0 _
  have hvalues : t.values = query.parameters.flatMap fun p => Positional.elements p.value := by
    rw [Template.values, ht.parameters_eq]
  have hmarks (n : Nat) : Positional.placeholders d 0 n =
      (List.range n).map fun i => d.placeholder (i + 1) := by
    simp only [Positional.placeholders, Nat.zero_add]
  have hbind := Positional.bindPieces_pieces d hbound 0
  refine ⟨t, ht, ?_⟩
  rw [hvalues, hmarks] at hbind
  simp only [bindPositional, query, hpieces, hbind, ok_bind, pure_eq_ok]

theorem bindPositional_compile_list :
    let e : Expr := .binary .and
      (.call "StartsWith" (some (.field "Name")) [.constant (.text "a_")])
      (.call "Contains" (some (.constant (.list [.int 1, .int 2]))) [.field "Id"])
    let q : Query := ⟨"Name LIKE @Name_p0 ESCAPE '\\' AND Id IN @Id_p1",
      [⟨"Name_p0", .text "a\\_%"⟩, ⟨"Id_p1", .list [.int 1, .int 2]⟩]⟩
    Compiler.compile ⟨⟨true, true⟩, none⟩ e = .ok q ∧
      ∃ t : Template, t.Spells q ∧ bindPositional .postgres q.sql q.parameters =
        .ok ⟨String.ofList (t.filled .postgres ["$1", "$2", "$3"]),
          [.text "a\\_%", .int 1, .int 2]⟩ := by
  intro e q
  have h : Compiler.compile ⟨⟨true, true⟩, none⟩ e = .ok q := rfl
  exact ⟨h, bindPositional_compile h .postgres⟩

end Expr
end SqlFilter
