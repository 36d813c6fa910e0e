import Mathlib.Data.List.Nodup
import SqlFilter.Proofs.Layout
import SqlFilter.Proofs.Sections
/-! Statements of SQL Server bound a second time. The placeholders there are references again, so a
bound text can be read like any other: quoted sections and characters that stayed are read as they
were, and what stands for values is read as references to them, in order. -/
namespace SqlFilter
open Positional

/-- Values under the names that placeholders of SQL Server refer to, after so many others. -/
def serial (bound : Nat) (vs : List Value) : List Parameter :=
  (vs.zipIdx bound).map fun v => ⟨"p" ++ toString (v.2 + 1), v.1⟩

section Serial
variable (bound : Nat) (vs : List Value)

theorem serial_append (ws : List Value) :
    serial bound (vs ++ ws) = serial bound vs ++ serial (bound + vs.length) ws := by
  simp only [serial, List.zipIdx_append, List.map_append]

theorem length_serial : (serial bound vs).length = vs.length := by
  rw [serial, List.length_map, List.length_zipIdx]

theorem values_serial : (serial bound vs).map (·.value) = vs := by
  rw [serial, List.map_map]
  exact List.zipIdx_map_fst bound vs

theorem names_serial :
    (serial bound vs).map (·.name) =
      (List.range' bound vs.length).map fun i => "p" ++ toString (i + 1) := by
  rw [serial, List.map_map, ← List.zipIdx_map_snd bound vs, List.map_map]
  rfl

theorem nodup_names_serial : ((serial bound vs).map (·.name)).Nodup := by
  rw [names_serial]
  apply List.Nodup.map _ (List.nodup_range' 1)
  intro i j hij
  have hlist := congrArg String.toList hij
  rw [String.toList_append, String.toList_append] at hlist
  have hnumber : i + 1 = j + 1 := toString_injective (List.append_cancel_left hlist)
  exact Nat.succ.inj hnumber

theorem isIdentifier_of_mem_serial {p : Parameter} (hp : p ∈ serial bound vs) :
    isIdentifier p.name = true := by
  obtain ⟨v, -, rfl⟩ := List.mem_map.1 hp
  have hletter : isIdentifier "p" = true := by decide
  refine isIdentifier_append hletter ?_
  intro c hc
  simp [isIdentifierChar, Char.isAlphanum, isDigit_of_mem_toString hc]

/-- References to serial names are the placeholders of SQL Server. -/
theorem references_serial :
    (serial bound vs).map (fun p => "@" ++ p.name) = placeholders .sqlServer bound vs.length := by
  have hnames := congrArg (List.map ("@" ++ ·)) (names_serial bound vs)
  rw [List.map_map, List.map_map, List.range'_eq_map_range, List.map_map] at hnames
  refine hnames.trans (List.map_congr_left ?_)
  intro i _
  simp only [Function.comp_apply, Dialect.placeholder, ← String.append_assoc]
  rfl

end Serial

namespace Positional

/-- What stands for a value has places for its elements. -/
theorem laid_inPlace (bound : Nat) (v : Value) :
    Laid (serial bound (elements v)) fun ms => Dialect.sqlServer.inPlace ms v := by
  have hplaces : Laid (serial bound (elements v)) fun ms => ", ".intercalate ms :=
    Laid.commas fun p hp => isIdentifier_of_mem_serial bound _ hp
  have hclosing : IsSeparator ")" := by decide
  have hopening : IsPlain "(" := by decide
  cases v with
  | list items =>
    cases items with
    | nil => exact Laid.closing (s := "(SELECT NULL WHERE 1 = 0)") (by decide)
    | cons item items =>
      refine ((hplaces.before hclosing).after hopening).congr ?_
      intro ms _
      have htext : Dialect.sqlServer.inPlace ms (.list (item :: items)) =
          "(" ++ ", ".intercalate ms ++ ")" := rfl
      rw [htext, String.append_assoc]
  | _ => exact hplaces

theorem exists_template_expansion (bound : Nat) (v : Value) :
    ∃ t : Template, t.Scanned ∧ t.parameters = serial bound (elements v) ∧
      t.sql = (expansion .sqlServer bound v).toList := by
  obtain ⟨t, ht⟩ := laid_inPlace bound v
  refine ⟨t, ht.scanned, ht.parameters_eq, ?_⟩
  have hmarks : (placeholders .sqlServer bound (elements v).length).length =
      (serial bound (elements v)).length := by
    rw [length_placeholders, length_serial]
  calc t.sql
      = t.written (placeholders .sqlServer bound (elements v).length) := by
        rw [Template.sql_eq_written, ht.parameters_eq, references_serial]
    _ = (expansion .sqlServer bound v).toList := by
        rw [ht.written_eq hmarks, expansion_eq_inPlace]

/-- No name goes on with what stands for a value. -/
theorem stopsName_expansion (bound : Nat) (v : Value) (rest : List Char) :
    StopsName ((expansion .sqlServer bound v).toList ++ rest) := by
  have hopening (s : String) : StopsName (("(" ++ s).toList ++ rest) := by
    rw [String.toList_append]
    exact stopsName_cons (by decide) _
  have hmark (i : Nat) : StopsName (("@p" ++ toString i).toList ++ rest) := by
    rw [String.toList_append]
    exact stopsName_cons (by decide) _
  cases v with
  | list items =>
    cases items with
    | nil => exact hopening "SELECT NULL WHERE 1 = 0)"
    | cons item items =>
      let marks := placeholders .sqlServer bound (item :: items).length
      have htext : expansion .sqlServer bound (.list (item :: items)) =
          "(" ++ ", ".intercalate marks ++ ")" := rfl
      rw [htext, String.append_assoc]
      exact hopening _
  | _ => exact hmark (bound + 1)

/-- A value that is bound for a list without lists in it is no list. -/
theorem items?_of_mem_elements {v w : Value}
    (hflat : ∀ items, w = .list items → ∀ v ∈ items, v.items? = none) (hv : v ∈ elements w) :
    v.items? = none := by
  cases w with
  | list items => exact hflat items rfl v hv
  | _ =>
    rw [List.mem_singleton.1 hv]
    rfl

section Bind
variable {d : Dialect} {ps : List Parameter} {bound : Nat} {pieces : List Piece} {out : List Char}
  {vs : List Value}

theorem bindPieces_char_eq_ok {c : Char}
    (h : bindPieces d ps bound (.char c :: pieces) = .ok (out, vs)) :
    ∃ out', bindPieces d ps bound pieces = .ok (out', vs) ∧ out = c :: out' := by
  obtain ⟨⟨out', vs'⟩, hrest, h⟩ := bind_eq_ok_iff.1 h
  obtain ⟨rfl, rfl⟩ := Prod.mk.inj (Except.ok.inj h)
  exact ⟨out', hrest, rfl⟩

theorem bindPieces_reference_eq_ok {name : List Char}
    (h : bindPieces d ps bound (.reference name :: pieces) = .ok (out, vs)) :
    ∃ v out' vs', parameterValue? ps (String.ofList name) = some v ∧
      bindPieces d ps (bound + (elements v).length) pieces = .ok (out', vs') ∧
      out = (expansion d bound v).toList ++ out' ∧ vs = elements v ++ vs' := by
  rw [bindPieces] at h
  split at h
  · simp at h
  · rename_i v hv
    obtain ⟨⟨out', vs'⟩, hrest, h⟩ := bind_eq_ok_iff.1 h
    obtain ⟨rfl, rfl⟩ := Prod.mk.inj (Except.ok.inj h)
    exact ⟨v, out', vs', hv, hrest, rfl, rfl⟩

theorem bindPieces_chars_eq_ok {cs : List Char}
    (h : bindPieces d ps bound (cs.map .char ++ pieces) = .ok (out, vs)) :
    ∃ out', bindPieces d ps bound pieces = .ok (out', vs) ∧ out = cs ++ out' := by
  induction cs generalizing out with
  | nil => exact ⟨out, h, rfl⟩
  | cons c cs ih =>
    obtain ⟨more, hmore, rfl⟩ := bindPieces_char_eq_ok h
    obtain ⟨out', hrest, rfl⟩ := ih hmore
    exact ⟨out', hrest, rfl⟩

/-- Only values of parameters are bound, or elements of such values. -/
theorem exists_parameter_of_mem_bindPieces
    (h : bindPieces d ps bound pieces = .ok (out, vs)) :
    ∀ v ∈ vs, ∃ p ∈ ps, v ∈ elements p.value := by
  induction pieces generalizing bound out vs with
  | nil =>
    obtain ⟨-, rfl⟩ := Prod.mk.inj (Except.ok.inj h)
    simp
  | cons piece pieces ih =>
    cases piece with
    | char c =>
      obtain ⟨out', hrest, -⟩ := bindPieces_char_eq_ok h
      exact ih hrest
    | reference name =>
      obtain ⟨v, out', vs', hv, hrest, -, rfl⟩ := bindPieces_reference_eq_ok h
      obtain ⟨p, hp, rfl⟩ := Option.map_eq_some_iff.1 hv
      refine List.forall_mem_append.2 ⟨?_, ih hrest⟩
      exact fun w hw => ⟨p, List.mem_of_find?_eq_some hp, hw⟩

end Bind

/-- The template of a bound text: it has the text, it is what the text is scanned as, and its
parameters are the bound values under serial names. -/
structure Rereads (bound : Nat) (out : List Char) (vs : List Value) (u : Template) : Prop where
  sql_eq : u.sql = out
  scan_eq : scan .plain out = u.pieces
  parameters_eq : u.parameters = serial bound vs

namespace Rereads
variable {bound : Nat} {out : List Char} {vs : List Value} {u : Template}

theorem nil (bound : Nat) : Rereads bound [] [] [] :=
  ⟨rfl, rfl, rfl⟩

/-- Characters that the scan does not change may stand before a bound text. -/
theorem text_append (h : Rereads bound out vs u) {cs : List Char}
    (hscan : scan .plain (cs ++ out) = cs.map .char ++ scan .plain out) :
    Rereads bound (cs ++ out) vs (Template.text cs ++ u) := by
  refine ⟨?_, ?_, ?_⟩
  · rw [Template.sql_append, Template.sql_text, h.sql_eq]
  · rw [hscan, Template.pieces_append, Template.pieces_text, h.scan_eq]
  · rw [Template.parameters_append, Template.parameters_text, List.nil_append, h.parameters_eq]

/-- What stands for a value may stand before a bound text that no name goes on with. -/
theorem expansion_append {v : Value}
    (h : Rereads (bound + (elements v).length) out vs u) (hstop : StopsName out) :
    ∃ w, Rereads bound ((expansion .sqlServer bound v).toList ++ out) (elements v ++ vs) w := by
  obtain ⟨t, hscanned, hparameters, hsql⟩ := exists_template_expansion bound v
  refine ⟨t ++ u, ?_, ?_, ?_⟩
  · rw [Template.sql_append, hsql, h.sql_eq]
  · rw [← hsql, hscanned out hstop, Template.pieces_append, h.scan_eq]
  · rw [Template.parameters_append, hparameters, h.parameters_eq, serial_append]

end Rereads

/-- A bound text has a template, and where no name went on with the text, none goes on with what it
was bound to. -/
theorem exists_rereads {cs : List Char} {ss : List Section} (h : Splits cs ss)
    {ps : List Parameter} {bound : Nat} {out : List Char} {vs : List Value}
    (hbind : bindPieces .sqlServer ps bound (ss.flatMap Section.pieces) = .ok (out, vs)) :
    (StopsName cs → StopsName out) ∧ ∃ u, Rereads bound out vs u := by
  -- section by section; a reference and a lone at sign need that the rest stops a name
  induction h generalizing bound out vs with
  | nil =>
    obtain ⟨rfl, rfl⟩ := Prod.mk.inj (Except.ok.inj hbind)
    exact ⟨fun hstop => hstop, [], .nil bound⟩
  | @quoted body rest ss hbody _ ih =>
    obtain ⟨out', hrest, rfl⟩ := bindPieces_chars_eq_ok hbind
    obtain ⟨-, u, hu⟩ := ih hrest
    refine ⟨fun _ => stopsName_cons (by decide) _, _, hu.text_append ?_⟩
    have hscan := scan_section hbody out'
    simpa using hscan
  | @unclosed body hbody =>
    rw [List.flatMap_singleton, Section.pieces, ← List.append_nil (List.map _ _)] at hbind
    obtain ⟨out', hrest, rfl⟩ := bindPieces_chars_eq_ok hbind
    obtain ⟨rfl, rfl⟩ := Prod.mk.inj (Except.ok.inj hrest)
    refine ⟨fun _ => stopsName_cons (by decide) _, _, (Rereads.nil bound).text_append ?_⟩
    have hscan := scan_section_unclosed hbody
    simpa [scan] using hscan
  | reference hne hname hstop _ ih =>
    obtain ⟨v, out', vs', -, hrest, rfl, rfl⟩ := bindPieces_reference_eq_ok hbind
    obtain ⟨hstops, u, hu⟩ := ih hrest
    exact ⟨fun _ => stopsName_expansion bound v out', hu.expansion_append (hstops hstop)⟩
  | @other c rest ss hquote hat _ ih =>
    obtain ⟨out', hrest, rfl⟩ := bindPieces_char_eq_ok hbind
    obtain ⟨hstops, u, hu⟩ := ih hrest
    have hscan : scan .plain (c :: out') = .char c :: scan .plain out' :=
      scan_other hquote fun hc => hstops (hat hc)
    have hmore : Rereads bound ([c] ++ out') vs (Template.text [c] ++ u) := hu.text_append hscan
    exact ⟨fun hstop => hstop, _, hmore⟩

/-- The text is bound like a template whose parameters are found. -/
theorem Rereads.bindPositional_eq {out : List Char} {vs : List Value} {u : Template}
    (h : Rereads 0 out vs u) :
    bindPositional .sqlServer (String.ofList out) (serial 0 vs) =
      .ok ⟨String.ofList (u.written (expansions .sqlServer 0 vs)), vs.flatMap elements⟩ := by
  have hbound : ∀ p ∈ u.parameters, parameterValue? (serial 0 vs) p.name = some p.value := by
    rw [h.parameters_eq]
    exact fun p hp => parameterValue?_of_mem (nodup_names_serial 0 vs) hp
  have hpieces : scan .plain (String.ofList out).toList = u.pieces := by
    rw [String.toList_ofList, h.scan_eq]
  have hagain := Template.bindPositional_eq hpieces hbound .sqlServer
  rwa [h.parameters_eq, values_serial] at hagain

/-- Placeholders in the places of values that are no lists give the bound text again. -/
theorem Rereads.written_expansions {out : List Char} {vs : List Value} {u : Template}
    (h : Rereads 0 out vs u) (hscalar : ∀ v ∈ vs, v.items? = none) :
    u.written (expansions .sqlServer 0 vs) = out := by
  rw [expansions_of_scalars .sqlServer 0 hscalar, ← references_serial, ← h.parameters_eq,
    ← Template.sql_eq_written, h.sql_eq]

end Positional

/-- A bound statement of SQL Server, with its values as the parameters that its placeholders refer to,
is bound to itself just if none of the values is a list. This is so if no list has a list in it. -/
theorem bindPositional_serial {sql : String} {ps : List Parameter} {s : PositionalStatement}
    (h : bindPositional .sqlServer sql ps = .ok s) :
    let again := bindPositional .sqlServer s.sql (serial 0 s.values)
    ((∀ p ∈ ps, ∀ items, p.value = .list items → ∀ v ∈ items, v.items? = none) → again = .ok s) ∧
      (again = .ok s ↔ ∀ v ∈ s.values, v.items? = none) := by
  intro again
  obtain ⟨⟨out, vs⟩, hbind, h⟩ := bind_eq_ok_iff.1 h
  obtain rfl := Except.ok.inj h
  have hsplits := splits_sections sql.toList
  rw [scan_eq_flatMap hsplits] at hbind
  obtain ⟨-, u, hu⟩ := exists_rereads hsplits hbind
  -- bound again, the text keeps its places and each value stands for its own elements
  have hagain : again =
      .ok ⟨String.ofList (u.written (expansions .sqlServer 0 vs)), vs.flatMap elements⟩ :=
    hu.bindPositional_eq
  have hsame : again = .ok ⟨String.ofList out, vs⟩ ↔ ∀ v ∈ vs, v.items? = none := by
    rw [hagain]
    constructor
    · intro heq
      have hvalues := congrArg PositionalStatement.values (Except.ok.inj heq)
      exact flatMap_elements_eq_self_iff.1 hvalues
    · intro hscalar
      rw [hu.written_expansions hscalar, flatMap_elements_of_scalars hscalar]
  refine ⟨?_, hsame⟩
  intro hflat
  refine hsame.2 ?_
  intro v hv
  obtain ⟨p, hp, hmem⟩ := exists_parameter_of_mem_bindPieces hbind v hv
  exact items?_of_mem_elements (hflat p hp) hmem

/-- A quoted section, a lone at sign before a reference, one reference right after the other, and a
list that is empty. -/
theorem bindPositional_serial_adjacent :
    let ps : List Parameter := [⟨"a", .int 1⟩, ⟨"b", .list [.null, .int 2]⟩, ⟨"c", .list []⟩]
    let s : PositionalStatement := ⟨"'@a''@' @@p1(@p2, @p3)@p4 " ++ "(SELECT NULL WHERE 1 = 0)",
      [.int 1, .null, .int 2, .int 1]⟩
    bindPositional .sqlServer "'@a''@' @@a@b@a @c" ps = .ok s ∧
      bindPositional .sqlServer s.sql
        [⟨"p1", .int 1⟩, ⟨"p2", .null⟩, ⟨"p3", .int 2⟩, ⟨"p4", .int 1⟩] = .ok s := by
  intro ps s
  have hbind : bindPositional .sqlServer "'@a''@' @@a@b@a @c" ps = .ok s := by
    simp only [ps, s]
    rfl
  have hflat : ∀ p ∈ ps, ∀ items, p.value = .list items → ∀ v ∈ items, v.items? = none := by
    simp only [ps, List.forall_mem_cons]
    simp [Value.items?]
  exact ⟨hbind, (bindPositional_serial hbind).1 hflat⟩

end SqlFilter
