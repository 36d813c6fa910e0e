import SqlFilter.Operand
import SqlFilter.Proofs.Result
/-! The parts of predicates: field paths, values and lists of values. For each there is what has its
form, and what is at fault with an expression that is none. -/
namespace SqlFilter.Expr

/-- A field, or a member of what reads a field, with the segments of its path. -/
inductive Reads : Expr → List String → Prop
  | field (path : String) : Reads (.field path) (dottedSegments path)
  | member {target : Expr} {segments : List String} (h : Reads target segments) (name : String) :
      Reads (.member target name) (segments ++ [name])

def IsFieldShaped (e : Expr) : Prop :=
  ∃ segments, e.Reads segments

/-- The path has one or two segments, and they are identifiers. -/
def IsFieldPath (e : Expr) : Prop :=
  ∃ segments, e.Reads segments ∧ segments.length ≤ 2 ∧ ∀ s ∈ segments, isIdentifier s = true

/-- What is at fault with an expression that is no field path. -/
inductive PathFault (e : Expr) : CompileError → Prop
  | shape (h : ¬e.IsFieldShaped) :
      PathFault e (.unsupportedExpression (e.display ++ " is not a record field"))
  | segment {segments : List String} {s : String} (h : e.Reads segments) (hs : s ∈ segments)
      (hident : isIdentifier s = false) :
      PathFault e (.unsupportedExpression
        ("invalid field path '" ++ ".".intercalate segments ++ "'"))
  | nesting {segments : List String} (h : e.Reads segments)
      (hident : ∀ s ∈ segments, isIdentifier s = true) (hlength : 2 < segments.length) :
      PathFault e (.unsupportedNesting (".".intercalate segments))

/-- A literal, or a member that a captured object has, with the value. -/
inductive StandsFor : Expr → Value → Prop
  | constant (v : Value) : StandsFor (.constant v) v
  | member {name : String} {members : NameMap Value} {key : String} {v : Value}
      (h : members.find? key = some v) : StandsFor (.member (.captured name members) key) v

/-- The forms that are read as values, though a member may be missing or lie too deep. -/
inductive IsValueShaped : Expr → Prop
  | constant (v : Value) : IsValueShaped (.constant v)
  | captured (name : String) (members : NameMap Value) (key : String) :
      IsValueShaped (.member (.captured name members) key)
  | nested (target : Expr) (name key : String) : IsValueShaped (.member (.member target name) key)

/-- What is at fault with an expression that stands for no value. -/
inductive ValueFault : Expr → CompileError → Prop
  | missing {name : String} {members : NameMap Value} {key : String}
      (h : members.find? key = none) :
      ValueFault (.member (.captured name members) key)
        (.unsupportedExpression ("captured '" ++ name ++ "' has no member '" ++ key ++ "'"))
  | nesting (target : Expr) (name key : String) :
      ValueFault (.member (.member target name) key)
        (.unsupportedExpression ((Expr.member (.member target name) key).display ++
          " (only one level of member access on a captured value is supported)"))
  | shape {e : Expr} (h : ¬e.IsValueShaped) :
      ValueFault e (.unsupportedExpression (e.display ++ " cannot be evaluated to a value"))

/-- What is at fault with an expression that stands for no list. -/
inductive ListFault (e : Expr) : CompileError → Prop
  | value {x : CompileError} (h : e.ValueFault x) : ListFault e x
  | scalar {v : Value} (h : e.StandsFor v) (hv : v.items? = none) :
      ListFault e (.unsupportedExpression
        (e.display ++ " is a " ++ v.typeName ++ ", not a collection"))

variable {e : Expr} {x : CompileError}

theorem reads_iff {segments : List String} : e.Reads segments ↔ e.segments? = some segments := by
  constructor
  · intro h
    induction h with
    | field path => rfl
    | member h name ih => simp [segments?, ih]
  · intro h
    fun_induction segments? e generalizing segments with
    | case1 path =>
      obtain rfl := Option.some.inj h
      exact .field path
    | case2 target name ih =>
      obtain ⟨init, hinit, rfl⟩ := Option.map_eq_some_iff.1 h
      exact .member (ih hinit) name
    | case3 e => simp at h

theorem isFieldShaped_iff : e.IsFieldShaped ↔ e.isFieldRead = true := by
  simp only [IsFieldShaped, reads_iff, isFieldRead, Option.isSome_iff_exists]

theorem IsFieldPath.isFieldShaped (h : e.IsFieldPath) : e.IsFieldShaped := by
  obtain ⟨segments, hreads, -⟩ := h
  exact ⟨segments, hreads⟩

theorem fieldPath_of_reads {segments : List String} (h : e.Reads segments) :
    e.fieldPath = FieldPath.ofSegments segments := by
  rw [fieldPath, reads_iff.1 h]

theorem fieldPath_of_not_isFieldShaped (h : ¬e.IsFieldShaped) :
    e.fieldPath = .error (.unsupportedExpression (e.display ++ " is not a record field")) := by
  have hnone : e.segments? = none := by
    rw [isFieldShaped_iff, isFieldRead] at h
    exact Option.not_isSome_iff_eq_none.1 h
  rw [fieldPath, hnone]

theorem settles_fieldPath (e : Expr) : Settles e.fieldPath e.IsFieldPath e.PathFault := by
  refine settles_of_cases ?_ ?_ ?_
  · rintro ⟨segments, hreads, hlength, hident⟩
    rw [fieldPath_of_reads hreads, FieldPath.ofSegments, if_pos (List.all_eq_true.2 hident),
      if_neg (Nat.not_lt.2 hlength)]
    exact ⟨_, rfl⟩
  · -- the segments are looked at before they are counted
    intro x hx
    cases hx with
    | shape hshape => exact fieldPath_of_not_isFieldShaped hshape
    | @segment segments s hreads hs hident =>
      have hall : ¬segments.all isIdentifier = true := by
        intro hall
        simp [List.all_eq_true.1 hall s hs] at hident
      rw [fieldPath_of_reads hreads, FieldPath.ofSegments, if_neg hall]
    | nesting hreads hident hlength =>
      rw [fieldPath_of_reads hreads, FieldPath.ofSegments, if_pos (List.all_eq_true.2 hident),
        if_pos hlength]
  · -- each fault is what is left when the ones before it are not there
    by_cases hshape : e.IsFieldShaped
    · obtain ⟨segments, hreads⟩ := hshape
      by_cases hident : ∀ s ∈ segments, isIdentifier s = true
      · by_cases hlength : segments.length ≤ 2
        · exact Or.inl ⟨segments, hreads, hlength, hident⟩
        · exact Or.inr ⟨_, .nesting hreads hident (Nat.not_le.1 hlength)⟩
      · obtain ⟨s, hident⟩ := Classical.not_forall.1 hident
        obtain ⟨hs, hident⟩ := Classical.not_imp.1 hident
        exact Or.inr ⟨_, .segment hreads hs (by simpa using hident)⟩
    · exact Or.inr ⟨_, .shape hshape⟩

theorem operand_eq_ok_iff {v : Value} : e.operand = .ok v ↔ e.StandsFor v := by
  constructor
  · intro h
    unfold operand at h
    split at h
    · obtain rfl := Except.ok.inj h
      exact .constant _
    · split at h
      · rename_i hfind
        obtain rfl := Except.ok.inj h
        exact .member hfind
      · simp at h
    · simp at h
    · simp at h
  · intro h
    cases h with
    | constant v => rfl
    | member hfind => simp only [operand, hfind]

theorem operand_eq_error_iff : e.operand = .error x ↔ e.ValueFault x := by
  constructor
  · intro h
    unfold operand at h
    split at h
    · simp at h
    · split at h
      · simp at h
      · rename_i hfind
        obtain rfl := Except.error.inj h
        exact .missing hfind
    · obtain rfl := Except.error.inj h
      exact .nesting _ _ _
    · rename_i hconstant hcaptured hnested
      obtain rfl := Except.error.inj h
      refine .shape ?_
      intro hshape
      cases hshape with
      | constant v => exact hconstant v rfl
      | captured name members key => exact hcaptured name members key rfl
      | nested target name key => exact hnested target name key rfl
  · intro h
    cases h with
    | missing hfind => simp only [operand, hfind]
    | nesting target name key => rfl
    | shape hshape =>
      unfold operand
      split
      · exact absurd (.constant _) hshape
      · exact absurd (.captured _ _ _) hshape
      · exact absurd (.nested _ _ _) hshape
      · rfl

theorem collection_of_operand {v : Value} (h : e.operand = .ok v) :
    e.collection = match v.items? with
      | some items => .ok items
      | none => .error (.unsupportedExpression
          (e.display ++ " is a " ++ v.typeName ++ ", not a collection")) := by
  rw [collection, h]
  cases v <;> rfl

theorem collection_eq_ok_iff {items : List Value} :
    e.collection = .ok items ↔ e.StandsFor (.list items) := by
  rw [← operand_eq_ok_iff]
  constructor
  · intro h
    obtain ⟨v, hv, -⟩ := bind_eq_ok_iff.1 h
    rw [collection_of_operand hv] at h
    cases v with
    | list items' =>
      obtain rfl := Except.ok.inj h
      exact hv
    | _ => simp [Value.items?] at h
  · intro h
    rw [collection_of_operand h]
    rfl

theorem collection_eq_error_iff : e.collection = .error x ↔ e.ListFault x := by
  constructor
  · intro h
    rcases bind_eq_error_iff.1 h with hx | ⟨v, hv, -⟩
    · exact .value (operand_eq_error_iff.1 hx)
    · rw [collection_of_operand hv] at h
      cases hitems : v.items? with
      | some items => simp [hitems] at h
      | none =>
        rw [hitems] at h
        obtain rfl := Except.error.inj h
        exact .scalar (operand_eq_ok_iff.1 hv) hitems
  · intro h
    cases h with
    | value h => exact bind_eq_error_iff.2 (Or.inl (operand_eq_error_iff.2 h))
    | scalar h hv => rw [collection_of_operand (operand_eq_ok_iff.2 h), hv]

end SqlFilter.Expr
