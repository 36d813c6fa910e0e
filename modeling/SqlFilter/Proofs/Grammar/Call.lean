import SqlFilter.ClauseTree.OfExpr
import SqlFilter.Proofs.Grammar.Parts
/-! Calls as they are written: which are predicates, and what is at fault with the others. -/
namespace SqlFilter.Expr

/-- Calls that match the text of the receiver, and the method that they are. A search for an element
in a field is one for a part of its text. -/
inductive MatchesText : String → Option Expr → Expr → Method → Prop
  | pattern {kind : Method} {receiver : Expr}
      (hkind : kind = .startsWith ∨ kind = .endsWith ∨ kind = .stringContains)
      (hreceiver : receiver.IsFieldShaped) : MatchesText kind.name (some receiver) receiver kind
  | search {kind : Method} {receiver : Expr}
      (hkind : kind = .contains ∨ kind = .elementOf)
      (hreceiver : receiver.IsFieldShaped) :
      MatchesText kind.name (some receiver) receiver .stringContains

/-- Calls that test for membership, and the method that they are. -/
inductive TestsMembership : String → Option Expr → Method → Prop
  | mk {kind : Method} {target : Option Expr}
      (hkind : kind = .contains ∨ kind = .elementOf)
      (htarget : ∀ t ∈ target, ¬t.IsFieldShaped) : TestsMembership kind.name target kind

/-- Calls of other methods, and matches of a text without a field for it. -/
inductive UnsupportedCall : String → Option Expr → Prop
  | unknown {method : String} {target : Option Expr} (h : ∀ kind : Method, kind.name ≠ method) :
      UnsupportedCall method target
  | quantifier {kind : Method} {target : Option Expr} (hkind : kind = .any ∨ kind = .all) :
      UnsupportedCall kind.name target
  | receiver {kind : Method} {target : Option Expr}
      (hkind : kind = .startsWith ∨ kind = .endsWith ∨ kind = .stringContains)
      (htarget : ∀ t ∈ target, ¬t.IsFieldShaped) : UnsupportedCall kind.name target

/-- The collection and the element of a membership test. Without a target these are the first
argument and the last that has the form of a field. -/
inductive MembershipParts : Option Expr → List Expr → Expr → Expr → Prop
  | target (collection element : Expr) (rest : List Expr) :
      MembershipParts (some collection) (element :: rest) collection element
  | arguments {collection element : Expr} {rest before after : List Expr}
      (hargs : collection :: rest = before ++ element :: after) (helement : element.IsFieldShaped)
      (hafter : ∀ a ∈ after, ¬a.IsFieldShaped) :
      MembershipParts none (collection :: rest) collection element

/-- A field path matched against a value that is no list. -/
structure IsMatch (receiver : Expr) (args : List Expr) : Prop where
  path : receiver.IsFieldPath
  value : ∃ arg rest v, args = arg :: rest ∧ arg.StandsFor v ∧ v.items? = none

inductive MatchFault (kind : Method) (call receiver : Expr) (args : List Expr) :
    CompileError → Prop
  | receiver {x : CompileError} (h : receiver.PathFault x) : MatchFault kind call receiver args x
  | argument (hreceiver : receiver.IsFieldPath) (hargs : args = []) :
      MatchFault kind call receiver args
        (.unsupportedExpression (call.display ++ " is missing an argument"))
  | value {arg : Expr} {rest : List Expr} {x : CompileError} (hreceiver : receiver.IsFieldPath)
      (hargs : args = arg :: rest) (h : arg.ValueFault x) : MatchFault kind call receiver args x
  | list {arg : Expr} {rest : List Expr} {items : List Value} (hreceiver : receiver.IsFieldPath)
      (hargs : args = arg :: rest) (h : arg.StandsFor (.list items)) :
      MatchFault kind call receiver args
        (.unsupportedExpression (kind.name ++ " cannot match a list value"))

/-- A field path as the element, and a list as the collection. -/
inductive IsMembership (target : Option Expr) (args : List Expr) : Prop
  | mk {collection element : Expr} {items : List Value}
      (hparts : MembershipParts target args collection element) (helement : element.IsFieldPath)
      (hcollection : collection.StandsFor (.list items))

/-- The element is looked at before the collection. -/
inductive MembershipFault (call : Expr) (target : Option Expr) (args : List Expr) :
    CompileError → Prop
  | parts (h : ∀ collection element, ¬MembershipParts target args collection element) :
      MembershipFault call target args
        (.unsupportedExpression (call.display ++ " is missing an argument"))
  | element {collection element : Expr} {x : CompileError}
      (hparts : MembershipParts target args collection element) (h : element.PathFault x) :
      MembershipFault call target args x
  | collection {collection element : Expr} {x : CompileError}
      (hparts : MembershipParts target args collection element) (helement : element.IsFieldPath)
      (h : collection.ListFault x) : MembershipFault call target args x

/-- The calls that are predicates. -/
inductive IsCall (method : String) (target : Option Expr) (args : List Expr) : Prop
  | matching {receiver : Expr} {kind : Method} (h : MatchesText method target receiver kind)
      (hmatch : IsMatch receiver args)
  | membership {kind : Method} (h : TestsMembership method target kind)
      (hmembership : IsMembership target args)

inductive CallFault (method : String) (target : Option Expr) (args : List Expr) :
    CompileError → Prop
  | method (h : UnsupportedCall method target) :
      CallFault method target args (.unsupportedMethod method)
  | matching {receiver : Expr} {kind : Method} {x : CompileError}
      (h : MatchesText method target receiver kind)
      (hx : MatchFault kind (.call method target args) receiver args x) :
      CallFault method target args x
  | membership {kind : Method} {x : CompileError} (h : TestsMembership method target kind)
      (hx : MembershipFault (.call method target args) target args x) :
      CallFault method target args x

theorem MembershipParts.membershipParts?_eq {target : Option Expr} {args : List Expr}
    {collection element : Expr} (h : MembershipParts target args collection element) :
    membershipParts? target args = some (collection, element) := by
  cases h with
  | target collection element rest => rfl
  | @arguments collection element rest before after hargs helement hafter =>
    -- the last of its kind is the first from the end
    have hfind : (collection :: rest).reverse.find? isFieldRead = some element := by
      rw [hargs, List.find?_eq_some_iff_append]
      refine ⟨isFieldShaped_iff.1 helement, after.reverse, before.reverse, by simp, ?_⟩
      intro a ha
      have hshape := hafter a (List.mem_reverse.1 ha)
      rw [isFieldShaped_iff] at hshape
      simpa using hshape
    simp only [membershipParts?, hfind]

theorem parts_iff {target : Option Expr} {args : List Expr} {collection element : Expr} :
    MembershipParts target args collection element ↔
      membershipParts? target args = some (collection, element) := by
  refine ⟨MembershipParts.membershipParts?_eq, ?_⟩
  intro h
  unfold membershipParts? at h
  split at h
  · obtain ⟨rfl, rfl⟩ := Prod.mk.inj (Option.some.inj h)
    exact .target _ _ _
  · simp at h
  · split at h
    · rename_i collection' rest element' hfind
      obtain ⟨rfl, rfl⟩ := Prod.mk.inj (Option.some.inj h)
      obtain ⟨helement, after, before, hsplit, hafter⟩ := List.find?_eq_some_iff_append.1 hfind
      have hargs := congrArg List.reverse hsplit
      rw [List.reverse_reverse, List.reverse_append, List.reverse_cons, List.append_assoc,
        List.singleton_append] at hargs
      refine .arguments hargs (isFieldShaped_iff.2 helement) ?_
      intro a ha
      have hshape := hafter a (List.mem_reverse.1 ha)
      rw [isFieldShaped_iff]
      simpa using hshape
    · simp at h

theorem ofName_name (kind : Method) : Method.ofName kind.name = .ok kind := by
  cases kind <;> rfl

theorem ofName_of_unknown {method : String} (h : ∀ kind : Method, kind.name ≠ method) :
    Method.ofName method = .error (.unsupportedMethod method) := by
  have hfind : Method.known.find? (·.name == method) = none := by
    rw [List.find?_eq_none]
    intro kind _
    simpa using h kind
  rw [Method.ofName, hfind]

theorem exists_pattern {kind : Method} (hkind : kind.isPatternMatch = true) (escape : Bool)
    {v : Value} (hscalar : v.items? = none) : ∃ pattern, kind.pattern v escape = .ok pattern := by
  rw [Method.pattern, hscalar]
  cases kind with
  | startsWith | endsWith | stringContains => exact ⟨_, rfl⟩
  | _ => simp [Method.isPatternMatch] at hkind

theorem settles_matchClause (escape negated : Bool) (call receiver : Expr) (args : List Expr)
    {kind : Method} (hkind : kind.isPatternMatch = true) :
    Settles (matchClause escape kind negated call receiver args) (IsMatch receiver args)
      (MatchFault kind call receiver args) := by
  refine settles_of_cases ?_ ?_ ?_
  · rintro ⟨hreceiver, arg, rest, v, rfl, harg, hscalar⟩
    obtain ⟨field, hfield⟩ := (settles_fieldPath receiver).ok_iff.2 hreceiver
    obtain ⟨pattern, hpattern⟩ := exists_pattern hkind escape hscalar
    simp only [matchClause, hfield, operand_eq_ok_iff.2 harg, hpattern, ok_bind]
    exact ⟨_, rfl⟩
  · intro x hx
    cases hx with
    | receiver h =>
      have hfield := ((settles_fieldPath receiver).error_iff x).2 h
      simp only [matchClause, hfield, error_bind]
    | argument hreceiver hargs =>
      obtain ⟨field, hfield⟩ := (settles_fieldPath receiver).ok_iff.2 hreceiver
      simp only [matchClause, hargs, hfield, ok_bind]
      rfl
    | value hreceiver hargs h =>
      obtain ⟨field, hfield⟩ := (settles_fieldPath receiver).ok_iff.2 hreceiver
      simp only [matchClause, hargs, hfield, operand_eq_error_iff.2 h, ok_bind, error_bind]
    | list hreceiver hargs h =>
      obtain ⟨field, hfield⟩ := (settles_fieldPath receiver).ok_iff.2 hreceiver
      simp only [matchClause, hargs, hfield, operand_eq_ok_iff.2 h, ok_bind]
      rfl
  · rcases (settles_fieldPath receiver).cases with hreceiver | ⟨x, hx⟩
    · cases args with
      | nil => exact Or.inr ⟨_, .argument hreceiver rfl⟩
      | cons arg rest =>
        cases harg : arg.operand with
        | error x => exact Or.inr ⟨x, .value hreceiver rfl (operand_eq_error_iff.1 harg)⟩
        | ok v =>
          have harg := operand_eq_ok_iff.1 harg
          cases v with
          | list items => exact Or.inr ⟨_, .list hreceiver rfl harg⟩
          | _ => exact Or.inl ⟨hreceiver, arg, rest, _, rfl, harg, rfl⟩
    · exact Or.inr ⟨x, .receiver hx⟩

theorem settles_membershipClause (negated : Bool) (kind : Method) (call : Expr)
    (target : Option Expr) (args : List Expr) :
    Settles (membershipClause kind negated call target args) (IsMembership target args)
      (MembershipFault call target args) := by
  refine settles_of_cases ?_ ?_ ?_
  · rintro ⟨hparts, helement, hcollection⟩
    obtain ⟨field, hfield⟩ := (settles_fieldPath _).ok_iff.2 helement
    simp only [membershipClause, hparts.membershipParts?_eq, hfield,
      collection_eq_ok_iff.2 hcollection, ok_bind]
    exact ⟨_, rfl⟩
  · intro x hx
    cases hx with
    | parts h =>
      have hnone : membershipParts? target args = none := by
        refine Option.eq_none_iff_forall_ne_some.2 ?_
        rintro ⟨collection, element⟩ hsome
        exact h collection element (parts_iff.2 hsome)
      rw [membershipClause, hnone]
      rfl
    | element hparts h =>
      have hfield := ((settles_fieldPath _).error_iff x).2 h
      simp only [membershipClause, hparts.membershipParts?_eq, hfield, error_bind]
    | collection hparts helement h =>
      obtain ⟨field, hfield⟩ := (settles_fieldPath _).ok_iff.2 helement
      simp only [membershipClause, hparts.membershipParts?_eq, hfield,
        collection_eq_error_iff.2 h, ok_bind, error_bind]
  · by_cases hparts : ∃ collection element, MembershipParts target args collection element
    · obtain ⟨collection, element, hparts⟩ := hparts
      rcases (settles_fieldPath element).cases with helement | ⟨x, hx⟩
      · cases hitems : collection.collection with
        | ok items => exact Or.inl ⟨hparts, helement, collection_eq_ok_iff.1 hitems⟩
        | error x =>
          exact Or.inr ⟨x, .collection hparts helement (collection_eq_error_iff.1 hitems)⟩
      · exact Or.inr ⟨x, .element hparts hx⟩
    · refine Or.inr ⟨_, .parts ?_⟩
      intro collection element h
      exact hparts ⟨collection, element, h⟩

section Call
variable {escape negated : Bool} {method : String} {target : Option Expr} {args : List Expr}

theorem methodOn_eq_self {kind : Method} (htarget : ∀ t ∈ target, ¬t.IsFieldShaped) :
    methodOn kind target = kind := by
  cases target with
  | none => cases kind <;> rfl
  | some t =>
    have hread : ¬t.isFieldRead = true := mt isFieldShaped_iff.2 (htarget t rfl)
    cases kind <;> simp [methodOn, hread]

theorem callClause_of_unsupported (h : UnsupportedCall method target) :
    callClause escape negated method target args = .error (.unsupportedMethod method) := by
  cases h with
  | unknown h => simp only [callClause, ofName_of_unknown h, error_bind]
  | quantifier hkind =>
    simp only [callClause, ofName_name, ok_bind]
    rcases hkind with rfl | rfl <;> rfl
  | @receiver kind target hkind htarget =>
    simp only [callClause, ofName_name, ok_bind, methodOn_eq_self htarget]
    cases target with
    | none => rcases hkind with rfl | rfl | rfl <;> rfl
    | some t =>
      have hread : ¬t.isFieldRead = true := mt isFieldShaped_iff.2 (htarget t rfl)
      rcases hkind with rfl | rfl | rfl <;> exact if_neg hread

theorem MatchesText.callClause_eq {receiver : Expr} {kind : Method}
    (h : MatchesText method target receiver kind) :
    callClause escape negated method target args =
      matchClause escape kind negated (.call method target args) receiver args := by
  cases h with
  | pattern hkind hreceiver =>
    have hread := isFieldShaped_iff.1 hreceiver
    simp only [callClause, ofName_name, ok_bind]
    rcases hkind with rfl | rfl | rfl <;> exact if_pos hread
  | search hkind hreceiver =>
    have hread := isFieldShaped_iff.1 hreceiver
    simp only [callClause, ofName_name, ok_bind]
    rcases hkind with rfl | rfl <;> simp only [methodOn, hread, ↓reduceIte]

theorem TestsMembership.callClause_eq {kind : Method} (h : TestsMembership method target kind) :
    callClause escape negated method target args =
      membershipClause kind negated (.call method target args) target args := by
  cases h with
  | mk hkind htarget =>
    simp only [callClause, ofName_name, ok_bind, methodOn_eq_self htarget]
    rcases hkind with rfl | rfl <;> rfl

theorem MatchesText.isPatternMatch {receiver : Expr} {kind : Method}
    (h : MatchesText method target receiver kind) : kind.isPatternMatch = true := by
  cases h with
  | pattern hkind hreceiver =>
    rcases hkind with rfl | rfl | rfl <;> rfl
  | search hkind hreceiver => rfl

theorem call_cases (method : String) (target : Option Expr) :
    UnsupportedCall method target ∨ (∃ receiver kind, MatchesText method target receiver kind) ∨
      ∃ kind, TestsMembership method target kind := by
  -- the method by its name, and then whether the target has the form of a field
  by_cases hknown : ∃ kind : Method, kind.name = method
  · obtain ⟨kind, rfl⟩ := hknown
    by_cases htarget : ∀ t ∈ target, ¬t.IsFieldShaped
    · cases kind with
      | startsWith | endsWith | stringContains => exact Or.inl (.receiver (by simp) htarget)
      | contains | elementOf => exact Or.inr (Or.inr ⟨_, .mk (by simp) htarget⟩)
      | any | all => exact Or.inl (.quantifier (by simp))
    · obtain ⟨t, ht⟩ := Classical.not_forall.1 htarget
      obtain ⟨rfl, hshape⟩ := Classical.not_imp.1 ht
      have hshape := Classical.not_not.1 hshape
      cases kind with
      | startsWith | endsWith | stringContains =>
        exact Or.inr (Or.inl ⟨t, _, .pattern (by simp) hshape⟩)
      | contains | elementOf => exact Or.inr (Or.inl ⟨t, _, .search (by simp) hshape⟩)
      | any | all => exact Or.inl (.quantifier (by simp))
  · exact Or.inl (.unknown (not_exists.1 hknown))

theorem settles_callClause (escape negated : Bool) (method : String) (target : Option Expr)
    (args : List Expr) :
    Settles (callClause escape negated method target args) (IsCall method target args)
      (CallFault method target args) := by
  have hmatch {receiver : Expr} {kind : Method} (h : MatchesText method target receiver kind) :=
    settles_matchClause escape negated (.call method target args) receiver args h.isPatternMatch
  have hmembership (kind : Method) :=
    settles_membershipClause negated kind (.call method target args) target args
  -- method and target alone tell which form a call has, and each form has its own clause
  refine settles_of_cases ?_ ?_ ?_
  · intro hcall
    cases hcall with
    | matching h hm =>
      rw [h.callClause_eq]
      exact (hmatch h).ok_iff.2 hm
    | @membership kind h hm =>
      rw [h.callClause_eq]
      exact (hmembership kind).ok_iff.2 hm
  · intro x hx
    cases hx with
    | method h => exact callClause_of_unsupported h
    | matching h hx =>
      rw [h.callClause_eq]
      exact ((hmatch h).error_iff x).2 hx
    | @membership kind x h hx =>
      rw [h.callClause_eq]
      exact ((hmembership kind).error_iff x).2 hx
  · rcases call_cases method target with h | ⟨receiver, kind, h⟩ | ⟨kind, h⟩
    · exact Or.inr ⟨_, .method h⟩
    · exact (hmatch h).cases.imp (.matching h) (Exists.imp fun _ => .matching h)
    · exact (hmembership kind).cases.imp (.membership h) (Exists.imp fun _ => .membership h)

end Call

end SqlFilter.Expr
