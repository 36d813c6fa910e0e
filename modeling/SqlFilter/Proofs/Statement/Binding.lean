import SqlFilter.Proofs.Binding
import SqlFilter.Proofs.References
import SqlFilter.Proofs.Statement.Names
/-! Statements bound by position. The texts of a statement between its parameters begin no reference
and no quotation, so a statement is scanned as a template with its parameters in their places. -/
namespace SqlFilter

/-- A text in which neither a reference nor a quotation begins. -/
structure IsPlain (s : String) : Prop where
  no_at : '@' ∉ s.toList
  no_quote : '\'' ∉ s.toList

instance (s : String) : Decidable (IsPlain s) :=
  decidable_of_iff ('@' ∉ s.toList ∧ '\'' ∉ s.toList)
    ⟨fun h => ⟨h.1, h.2⟩, fun h => ⟨h.no_at, h.no_quote⟩⟩

theorem IsPlain.append {s s' : String} (hs : IsPlain s) (hs' : IsPlain s') : IsPlain (s ++ s') := by
  refine ⟨?_, ?_⟩
  · simp [hs.no_at, hs'.no_at]
  · simp [hs.no_quote, hs'.no_quote]

/-- A plain text that goes on with no name. -/
structure IsSeparator (s : String) : Prop extends IsPlain s where
  stops : s.toList.head?.any (fun c => !isIdentifierChar c) = true

instance (s : String) : Decidable (IsSeparator s) :=
  decidable_of_iff (IsPlain s ∧ s.toList.head?.any (fun c => !isIdentifierChar c) = true)
    ⟨fun h => ⟨h.1, h.2⟩, fun h => ⟨h.toIsPlain, h.stops⟩⟩

theorem IsSeparator.stopsName_append {s : String} (hs : IsSeparator s) (cs : List Char) :
    StopsName (s.toList ++ cs) := by
  have hstops := hs.stops
  cases hs : s.toList with
  | nil => simp [hs] at hstops
  | cons c ds =>
    rw [hs] at hstops
    exact stopsName_cons (by simpa using hstops) _

theorem IsSeparator.append {s s' : String} (hs : IsSeparator s) (hs' : IsPlain s') :
    IsSeparator (s ++ s') := by
  have hstops := hs.stops
  refine ⟨hs.toIsPlain.append hs', ?_⟩
  cases hlist : s.toList with
  | nil => simp [hlist] at hstops
  | cons c ds => simpa [hlist] using hstops

theorem isPlain_of_isIdentifier {s : String} (hs : isIdentifier s = true) : IsPlain s := by
  have hat : '@' ∉ s.toList := not_mem_of_isIdentifier hs (by decide)
  have hquote : '\'' ∉ s.toList := not_mem_of_isIdentifier hs (by decide)
  exact ⟨hat, hquote⟩

theorem IsPlain.keptByNames : KeptByNames IsPlain where
  identifier := isPlain_of_isIdentifier
  sign := by decide
  append := IsPlain.append

namespace Query

theorem IsTemplated.after {q : Query} (hq : q.IsTemplated) {opening : String}
    (hopening : IsPlain opening) : (⟨opening ++ q.sql, q.parameters⟩ : Query).IsTemplated :=
  hq.text_append hopening.no_at hopening.no_quote

/-- Two queries with a separator between them. -/
theorem IsTemplated.join {q r : Query} (hq : q.IsTemplated) (hr : r.IsTemplated) {middle : String}
    (hmiddle : IsSeparator middle) :
    (⟨q.sql ++ middle ++ r.sql, q.parameters ++ r.parameters⟩ : Query).IsTemplated := by
  have hstop : StopsName (middle ++ r.sql).toList := by
    rw [String.toList_append]
    exact hmiddle.stopsName_append r.sql.toList
  rw [String.append_assoc]
  exact hq.append (hr.after hmiddle.toIsPlain) hstop

theorem IsTemplated.before {q : Query} (hq : q.IsTemplated) {closing : String}
    (hclosing : IsSeparator closing) :
    (⟨q.sql ++ closing, q.parameters⟩ : Query).IsTemplated := by
  simpa using hq.join isTemplated_empty hclosing

/-- Parameters with a text each, and a separator between them. -/
theorem isTemplated_intercalate {separator : String} (hseparator : IsSeparator separator)
    {text : String → String} :
    ∀ {ps : List Parameter}, (∀ p ∈ ps, (⟨text p.name, [p]⟩ : Query).IsTemplated) →
      (⟨separator.intercalate (ps.map fun p => text p.name), ps⟩ : Query).IsTemplated
  | [], _ => isTemplated_empty
  | [p], hps => by
    rw [List.map_singleton, String.intercalate_singleton]
    exact hps p (by simp)
  | p :: p' :: ps, hps => by
    have hfirst := hps p List.mem_cons_self
    have hmore := isTemplated_intercalate hseparator
      (fun r hr => hps r (List.mem_cons_of_mem p hr))
    have hjoin := hfirst.join hmore hseparator
    rw [List.map_cons, List.map_cons, String.intercalate_cons_cons]
    exact hjoin

theorem isTemplated_assignment {p : Parameter} (hname : isIdentifier p.name = true) :
    (⟨Table.assignment p.name, [p]⟩ : Query).IsTemplated := by
  have hreference := isTemplated_reference hname
  have hopening : IsPlain (p.name ++ " = ") :=
    (isPlain_of_isIdentifier hname).append (by decide)
  have hsplit : Table.assignment p.name = p.name ++ " = " ++ ("@" ++ p.name) := by
    simp only [Table.assignment, String.append_assoc]
    rfl
  rw [hsplit]
  exact hreference.after hopening

end Query

namespace Template

/-- The template with other values for its parameters. -/
def rebind (value : Parameter → Value) : Template → Template
  | [] => []
  | .char c :: t => .char c :: rebind value t
  | .parameter p :: t => .parameter ⟨p.name, value p⟩ :: rebind value t

variable (value : Parameter → Value)

theorem sql_rebind (t : Template) : (t.rebind value).sql = t.sql := by
  induction t with
  | nil => rfl
  | cons s t ih => cases s <;> simp only [rebind, sql, ih]

theorem pieces_rebind (t : Template) : (t.rebind value).pieces = t.pieces := by
  induction t with
  | nil => rfl
  | cons s t ih => cases s <;> simp only [rebind, pieces, ih]

theorem parameters_rebind (t : Template) :
    (t.rebind value).parameters = t.parameters.map fun p => ⟨p.name, value p⟩ := by
  induction t with
  | nil => rfl
  | cons s t ih => cases s <;> simp only [rebind, parameters, ih, List.map_cons]

theorem delimited_rebind {t : Template} (ht : t.Delimited) : (t.rebind value).Delimited := by
  induction t with
  | nil => trivial
  | cons s t ih =>
    cases s with
    | char c => exact ⟨ht.1, ih ht.2⟩
    | parameter p => exact ⟨ht.1, by rw [sql_rebind]; exact ht.2.1, ih ht.2.2⟩

end Template

namespace Statement

/-- A statement as if it were a condition. -/
def query (s : Statement) : Query := ⟨s.sql, s.parameters⟩

/-- Bound by position, the statement has the values of the given parameters where its references to
parameters of these names stand, one after another, and everything else as it was. -/
def Binds (s : Statement) (d : Dialect) (ps : List Parameter) : Prop :=
  ∃ t : Template, t.Spells ⟨s.sql, ps⟩ ∧
    let marks := Positional.placeholders d 0 t.values.length
    s.toPositional d = .ok ⟨String.ofList (t.filled d marks), t.values⟩

variable {s : Statement}

theorem scan_of_isTemplated (hs : s.query.IsTemplated) :
    ∃ t : Template, t.Spells s.query ∧ Positional.scan .plain s.sql.toList = t.pieces := by
  obtain ⟨t, ht, hscan⟩ := hs
  have hsql : t.sql = s.sql.toList := ht.sql_eq
  exact ⟨t, ht, by simpa [hsql, Positional.scan] using hscan [] stopsName_nil⟩

/-- The references that are read off the text are those to the parameters. -/
theorem references_of_isTemplated (hs : s.query.IsTemplated) :
    references s.sql.toList = s.parameters.map (·.name) := by
  obtain ⟨t, ht, hpieces⟩ := scan_of_isTemplated hs
  rw [references_eq_scan, hpieces, Template.names_pieces, ht.parameters_eq, query]

/-- A text that is scanned as a template is bound as the template is filled. -/
theorem toPositional_of_pieces {t : Template}
    (hpieces : Positional.scan .plain s.sql.toList = t.pieces)
    (hbound : ∀ p ∈ t.parameters, parameterValue? s.parameters p.name = some p.value)
    (d : Dialect) :
    s.toPositional d =
      .ok ⟨String.ofList (t.filled d (Positional.placeholders d 0 t.values.length)), t.values⟩ := by
  have hbind := Positional.bindPieces_pieces d hbound 0
  simp only [toPositional, bindPositional, hpieces, hbind, ok_bind, pure_eq_ok]

/-- Every reference is bound to what is found under its name. -/
theorem binds_of_isTemplated (hs : s.query.IsTemplated) (d : Dialect) {value : Parameter → Value}
    (hvalue : ∀ p ∈ s.parameters, parameterValue? s.parameters p.name = some (value p)) :
    s.Binds d (s.parameters.map fun p => ⟨p.name, value p⟩) := by
  -- the scan only sees names, so the template can carry the values that are found
  obtain ⟨t, ht, hpieces⟩ := scan_of_isTemplated hs
  have hparameters : t.parameters = s.parameters := ht.parameters_eq
  have hbound : ∀ p ∈ (t.rebind value).parameters,
      parameterValue? s.parameters p.name = some p.value := by
    intro p hp
    rw [Template.parameters_rebind, hparameters] at hp
    obtain ⟨p', hp', rfl⟩ := List.mem_map.1 hp
    exact hvalue p' hp'
  have hpositional := toPositional_of_pieces (hpieces.trans (Template.pieces_rebind value t).symm)
    hbound d
  refine ⟨t.rebind value, ⟨?_, ?_, Template.delimited_rebind value ht.delimited⟩, hpositional⟩
  · rw [Template.sql_rebind]
    exact ht.sql_eq
  · rw [Template.parameters_rebind, hparameters]

theorem binds_of_nodup (hs : s.query.IsTemplated) (hnames : (s.parameters.map (·.name)).Nodup)
    (d : Dialect) : s.Binds d s.parameters := by
  have hbinds := binds_of_isTemplated hs d
    (fun p hp => parameterValue?_of_mem hnames hp)
  simpa using hbinds

theorem Binds.values_eq {d : Dialect} {ps : List Parameter} (h : s.Binds d ps) :
    ∃ p, s.toPositional d = .ok p ∧ p.values = ps.flatMap fun q => Positional.elements q.value := by
  obtain ⟨t, ht, hs⟩ := h
  refine ⟨_, hs, ?_⟩
  rw [Template.values, ht.parameters_eq]

end Statement

namespace Expr

theorem isTemplated_compile {compiler : Compiler} {e : Expr} {q : Query}
    (h : compiler.compile e = .ok q) : q.IsTemplated := by
  obtain ⟨c, hc, rfl⟩ := compile_eq_ok h
  exact Condition.isTemplated_print _ 0 hc.readable

theorem parameters_compile {compiler : Compiler} {e : Expr} {q : Query}
    (h : compiler.compile e = .ok q) : ∃ bound, q.parameters = numbered 0 bound := by
  obtain ⟨c, -, rfl⟩ := compile_eq_ok h
  exact ⟨_, Condition.parameters_print _ 0 _⟩

end Expr
end SqlFilter
