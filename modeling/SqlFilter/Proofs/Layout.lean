import SqlFilter.Proofs.Statement.Binding
/-! Texts laid out around their parameters. Such a text is a function of what stands in the places of
the parameters: references to them, or what stands for their values when these are bound by
position. -/
namespace SqlFilter
open Positional

/-- What stands for values, one after the other, after so many bound ones. -/
def Positional.expansions (d : Dialect) (bound : Nat) : List Value → List String
  | [] => []
  | v :: vs => expansion d bound v :: expansions d (bound + (elements v).length) vs

theorem Positional.length_expansions (d : Dialect) (bound : Nat) (vs : List Value) :
    (expansions d bound vs).length = vs.length := by
  induction vs generalizing bound with
  | nil => rfl
  | cons v vs ih => rw [expansions, List.length_cons, List.length_cons, ih]

/-- A value that is no list binds itself, under one placeholder. -/
theorem Positional.elements_of_scalar {v : Value} (hv : v.items? = none) :
    elements v = [v] ∧ ∀ d bound, expansion d bound v = d.placeholder (bound + 1) := by
  cases v with
  | list items => simp [Value.items?] at hv
  | _ => exact ⟨rfl, fun _ _ => rfl⟩

section Scalars
variable {vs : List Value}

/-- As many values of their own have as many placeholders as there are. -/
theorem Positional.expansions_of_scalars (d : Dialect) (bound : Nat)
    (h : ∀ v ∈ vs, v.items? = none) : expansions d bound vs = placeholders d bound vs.length := by
  induction vs generalizing bound with
  | nil => rfl
  | cons v vs ih =>
    obtain ⟨hv, hvs⟩ := List.forall_mem_cons.1 h
    obtain ⟨helements, hexpansion⟩ := elements_of_scalar hv
    have hsplit : placeholders d bound (1 + vs.length) =
        d.placeholder (bound + 1) :: placeholders d (bound + 1) vs.length :=
      placeholders_add d bound 1 vs.length
    calc expansions d bound (v :: vs)
        = d.placeholder (bound + 1) :: expansions d (bound + 1) vs := by
          rw [expansions, helements, hexpansion, List.length_singleton]
      _ = placeholders d bound (1 + vs.length) := by rw [ih _ hvs, hsplit]
      _ = placeholders d bound (v :: vs).length := by rw [List.length_cons, Nat.add_comm]

theorem Positional.flatMap_elements_of_scalars (h : ∀ v ∈ vs, v.items? = none) :
    vs.flatMap elements = vs := by
  induction vs with
  | nil => rfl
  | cons v vs ih =>
    obtain ⟨hv, hvs⟩ := List.forall_mem_cons.1 h
    rw [List.flatMap_cons, (elements_of_scalar hv).1, ih hvs, List.singleton_append]

/-- The size of some values without the list that holds them. -/
noncomputable def Positional.totalSize : List Value → Nat
  | [] => 0
  | v :: vs => sizeOf v + totalSize vs

theorem Positional.totalSize_append (vs ws : List Value) :
    totalSize (vs ++ ws) = totalSize vs + totalSize ws := by
  induction vs with
  | nil => simp [totalSize]
  | cons v vs ih =>
    simp only [List.cons_append, totalSize, ih]
    omega

theorem Positional.totalSize_le (vs : List Value) : totalSize vs ≤ sizeOf vs := by
  induction vs with
  | nil => simp [totalSize]
  | cons v vs ih =>
    simp only [totalSize, List.cons.sizeOf_spec]
    omega

/-- The elements of a value are never larger than it, and those of a list are smaller. -/
theorem Positional.totalSize_elements (v : Value) :
    totalSize (elements v) ≤ sizeOf v ∧
      (v.items? ≠ none → totalSize (elements v) < sizeOf v) := by
  cases v with
  | list items =>
    have hitems := totalSize_le items
    simp only [elements, Value.list.sizeOf_spec]
    omega
  | _ => simp [elements, totalSize, Value.items?]

theorem Positional.totalSize_flatMap (vs : List Value) :
    totalSize (vs.flatMap elements) ≤ totalSize vs ∧
      ((∃ v ∈ vs, v.items? ≠ none) → totalSize (vs.flatMap elements) < totalSize vs) := by
  induction vs with
  | nil => simp
  | cons v vs ih =>
    obtain ⟨hle, hlt⟩ := totalSize_elements v
    obtain ⟨ihle, ihlt⟩ := ih
    rw [List.flatMap_cons, totalSize_append, totalSize]
    refine ⟨by omega, ?_⟩
    -- the list is the first value or one of the others
    rintro ⟨w, hw, hitems⟩
    rcases List.mem_cons.1 hw with rfl | hw
    · have hfirst := hlt hitems
      omega
    · have hmore := ihlt ⟨w, hw, hitems⟩
      omega

/-- Values are bound as they are just if none of them is a list: what a list gives is smaller. -/
theorem Positional.flatMap_elements_eq_self_iff :
    vs.flatMap elements = vs ↔ ∀ v ∈ vs, v.items? = none := by
  refine ⟨?_, flatMap_elements_of_scalars⟩
  intro heq
  by_contra hlist
  push Not at hlist
  have hlt := (totalSize_flatMap vs).2 hlist
  rw [heq] at hlt
  exact Nat.lt_irrefl _ hlt

end Scalars

namespace Template

/-- The text with the given texts in the places of the parameters. -/
def written : List String → Template → List Char
  | _, [] => []
  | ms, .char c :: t => c :: written ms t
  | [], .parameter _ :: t => written [] t
  | m :: ms, .parameter _ :: t => m.toList ++ written ms t

theorem written_text_append (ms : List String) (cs : List Char) (t : Template) :
    written ms (text cs ++ t) = cs ++ written ms t := by
  induction cs with
  | nil => rfl
  | cons c cs ih => exact congrArg (c :: ·) ih

theorem written_append {ms : List String} {t : Template} (hms : ms.length = t.parameters.length)
    (ms' : List String) (u : Template) :
    written (ms ++ ms') (t ++ u) = written ms t ++ written ms' u := by
  induction t generalizing ms with
  | nil =>
    obtain rfl := List.length_eq_zero_iff.1 hms
    rfl
  | cons s t ih =>
    cases s with
    | char c => exact congrArg (c :: ·) (ih hms)
    | parameter p =>
      obtain ⟨m, ms, rfl⟩ := List.exists_cons_of_length_eq_add_one hms
      have hmore : ms.length = (parameters t).length := by simpa [parameters] using hms
      rw [List.cons_append, List.cons_append, written, written, ih hmore, List.append_assoc]

theorem sql_eq_written (t : Template) :
    t.sql = t.written (t.parameters.map fun p => "@" ++ p.name) := by
  induction t with
  | nil => rfl
  | cons s t ih =>
    cases s with
    | char c => exact congrArg (c :: ·) ih
    | parameter p => simp [sql, parameters, written, ih]

/-- Bound by position, what stands in the places are the placeholders of the values. -/
theorem filled_eq_written (d : Dialect) (bound : Nat) (t : Template) :
    t.filled d (placeholders d bound t.values.length) =
      t.written (expansions d bound (t.parameters.map (·.value))) := by
  induction t generalizing bound with
  | nil => rfl
  | cons s t ih =>
    cases s with
    | char c => exact congrArg (c :: ·) (ih bound)
    | parameter p =>
      have hvalues : values (.parameter p :: t) = elements p.value ++ values t := rfl
      have hlength := length_placeholders d bound (elements p.value).length
      -- the parameter takes its own placeholders off the front
      rw [hvalues, List.length_append, placeholders_add, parameters, List.map_cons, expansions,
        written, filled, List.take_left' hlength, List.drop_left' hlength, ih,
        expansion_eq_inPlace]

/-- A text that is scanned as a template is bound to the same text with what stands for the values of
the parameters. -/
theorem bindPositional_eq {t : Template} {sql : String} {ps : List Parameter}
    (hpieces : scan .plain sql.toList = t.pieces)
    (hbound : ∀ p ∈ t.parameters, parameterValue? ps p.name = some p.value) (d : Dialect) :
    let values := t.parameters.map (·.value)
    bindPositional d sql ps =
      .ok ⟨String.ofList (t.written (expansions d 0 values)), values.flatMap elements⟩ := by
  intro values
  have hvalues : t.values = values.flatMap elements := by rw [Template.values, List.flatMap_map]
  have hbind := bindPieces_pieces d hbound 0
  rw [filled_eq_written, hvalues] at hbind
  simp only [bindPositional, hpieces, hbind, ok_bind, pure_eq_ok, values]

/-- The template is scanned as it is, and its text has places for the parameters. -/
structure Lays (t : Template) (ps : List Parameter) (text : List String → String) : Prop where
  scanned : t.Scanned
  parameters_eq : t.parameters = ps
  written_eq {ms : List String} (h : ms.length = ps.length) : t.written ms = (text ms).toList

end Template

/-- A text with a place for each parameter, in order. -/
def Laid (ps : List Parameter) (text : List String → String) : Prop :=
  ∃ t : Template, t.Lays ps text

namespace Laid
variable {ps qs : List Parameter} {text text' : List String → String}

theorem congr (h : Laid ps text) (heq : ∀ ms, ms.length = ps.length → text ms = text' ms) :
    Laid ps text' := by
  obtain ⟨t, ht⟩ := h
  refine ⟨t, ht.scanned, ht.parameters_eq, ?_⟩
  intro ms hms
  rw [ht.written_eq hms, heq ms hms]

theorem closing {s : String} (hs : IsPlain s) : Laid [] fun _ => s := by
  have hend : Template.Scanned [] := fun _ _ => rfl
  refine ⟨Template.text s.toList ++ [], Template.scanned_text_append hs.no_at hs.no_quote hend,
    ?_, ?_⟩
  · rw [List.append_nil, Template.parameters_text]
  · intro ms _
    rw [Template.written_text_append, Template.written, List.append_nil]

theorem place {p : Parameter} (hp : isIdentifier p.name = true) : Laid [p] fun ms => ms.headD "" := by
  refine ⟨[.parameter p], Template.scanned_parameter hp, rfl, ?_⟩
  intro ms hms
  obtain ⟨m, rfl⟩ := List.length_eq_one_iff.1 hms
  simp [Template.written]

theorem after (h : Laid ps text) {opening : String} (hopening : IsPlain opening) :
    Laid ps fun ms => opening ++ text ms := by
  obtain ⟨t, ht⟩ := h
  refine ⟨Template.text opening.toList ++ t,
    Template.scanned_text_append hopening.no_at hopening.no_quote ht.scanned, ?_, ?_⟩
  · rw [Template.parameters_append, Template.parameters_text, List.nil_append, ht.parameters_eq]
  · intro ms hms
    rw [Template.written_text_append, ht.written_eq hms, String.toList_append]

/-- Two texts with a separator between them have the places of the one and then of the other. -/
theorem join (h : Laid ps text) (h' : Laid qs text') {middle : String}
    (hmiddle : IsSeparator middle) :
    Laid (ps ++ qs) fun ms =>
      text (ms.take ps.length) ++ middle ++ text' (ms.drop ps.length) := by
  obtain ⟨t, ht⟩ := h
  obtain ⟨u, hu⟩ := h'
  have hmore : (Template.text middle.toList ++ u).Scanned :=
    Template.scanned_text_append hmiddle.no_at hmiddle.no_quote hu.scanned
  have hstop : StopsName (Template.text middle.toList ++ u).sql := by
    rw [Template.sql_append, Template.sql_text]
    exact hmiddle.stopsName_append u.sql
  refine ⟨t ++ (Template.text middle.toList ++ u),
    Template.scanned_append ht.scanned hmore hstop, ?_, ?_⟩
  · rw [Template.parameters_append, Template.parameters_append, Template.parameters_text,
      List.nil_append, ht.parameters_eq, hu.parameters_eq]
  · intro ms hms
    rw [List.length_append] at hms
    have hfirst : (ms.take ps.length).length = ps.length := by
      rw [List.length_take]
      omega
    have hsecond : (ms.drop ps.length).length = qs.length := by
      rw [List.length_drop]
      omega
    have hfirst' : (ms.take ps.length).length = t.parameters.length := by
      rw [hfirst, ht.parameters_eq]
    calc (t ++ (Template.text middle.toList ++ u)).written ms
        = (t ++ (Template.text middle.toList ++ u)).written
            (ms.take ps.length ++ ms.drop ps.length) := by rw [List.take_append_drop]
      _ = t.written (ms.take ps.length) ++
            (middle.toList ++ u.written (ms.drop ps.length)) := by
          rw [Template.written_append hfirst', Template.written_text_append]
      _ = _ := by
          rw [ht.written_eq hfirst, hu.written_eq hsecond, String.toList_append,
            String.toList_append, List.append_assoc]

theorem before (h : Laid ps text) {closing : String} (hclosing : IsSeparator closing) :
    Laid ps fun ms => text ms ++ closing := by
  have hempty : IsPlain "" := by decide
  have hjoin := h.join (Laid.closing hempty) hclosing
  rw [List.append_nil] at hjoin
  refine hjoin.congr ?_
  intro ms hms
  rw [List.take_of_length_le (Nat.le_of_eq hms), String.append_empty]

/-- A place for each parameter after a text of its own, with a separator between them. -/
theorem intercalate {separator : String} (hseparator : IsSeparator separator)
    {opening : Parameter → String} :
    ∀ {ps : List Parameter}, (∀ p ∈ ps, isIdentifier p.name = true ∧ IsPlain (opening p)) →
      Laid ps fun ms =>
        separator.intercalate (List.zipWith (fun p m => opening p ++ m) ps ms)
  | [], _ => (closing (s := "") (by decide)).congr fun _ _ => by simp
  | [p], hps => by
    obtain ⟨hname, hopening⟩ := hps p List.mem_cons_self
    refine ((place hname).after hopening).congr ?_
    intro ms hms
    obtain ⟨m, rfl⟩ := List.length_eq_one_iff.1 hms
    simp
  | p :: q :: ps, hps => by
    obtain ⟨hname, hopening⟩ := hps p List.mem_cons_self
    have hmore := intercalate hseparator (fun r hr => hps r (List.mem_cons_of_mem p hr))
    refine (((place hname).after hopening).join hmore hseparator).congr ?_
    intro ms hms
    obtain ⟨m, ms, rfl⟩ := List.exists_cons_of_length_eq_add_one hms
    obtain ⟨m', ms, rfl⟩ := List.exists_cons_of_length_eq_add_one (Nat.succ.inj hms)
    simp [String.intercalate_cons_cons, String.append_assoc]

/-- Places with nothing beside them but the commas between them. -/
theorem commas (hps : ∀ p ∈ ps, isIdentifier p.name = true) :
    Laid ps fun ms => ", ".intercalate ms := by
  have hcomma : IsSeparator ", " := by decide
  have hempty : IsPlain "" := by decide
  have hplaces : Laid ps fun ms =>
      ", ".intercalate (List.zipWith (fun _ mark => "" ++ mark) ps ms) :=
    intercalate hcomma fun p hp => ⟨hps p hp, hempty⟩
  refine hplaces.congr ?_
  intro ms hms
  have hsecond : List.zipWith (fun (_ : Parameter) mark => mark) ps ms = ms := by
    have hzip := List.map_snd_zip (Nat.le_of_eq hms)
    rw [List.map_zip_eq_zipWith] at hzip
    exact hzip
  simp only [String.empty_append, hsecond]

end Laid

/-- A laid out statement refers to its parameters, and bound by position it has the same text with
what stands for their values. -/
theorem Statement.toPositional_of_laid {s : Statement} {text : List String → String}
    (h : Laid s.parameters text) (hsql : s.sql = text (s.parameters.map fun p => "@" ++ p.name))
    (hnames : (s.parameters.map (·.name)).Nodup) (d : Dialect) :
    let values := s.parameters.map (·.value)
    s.toPositional d = .ok ⟨text (expansions d 0 values), values.flatMap elements⟩ := by
  intro values
  obtain ⟨t, ht⟩ := h
  have hspelled : t.sql = s.sql.toList := by
    rw [Template.sql_eq_written, ht.parameters_eq, hsql]
    exact ht.written_eq (List.length_map _)
  have hpieces : scan .plain s.sql.toList = t.pieces := by
    simpa [hspelled, scan] using ht.scanned [] stopsName_nil
  have hbound : ∀ p ∈ t.parameters, parameterValue? s.parameters p.name = some p.value := by
    rw [ht.parameters_eq]
    exact fun p hp => parameterValue?_of_mem hnames hp
  have hwritten : t.written (expansions d 0 values) = (text (expansions d 0 values)).toList := by
    refine ht.written_eq ?_
    rw [length_expansions, List.length_map]
  have hpositional := Template.bindPositional_eq hpieces hbound d
  dsimp only at hpositional
  rw [ht.parameters_eq, hwritten, String.ofList_toList] at hpositional
  exact hpositional

end SqlFilter
