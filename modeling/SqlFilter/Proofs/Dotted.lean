import SqlFilter.Compiler
import SqlFilter.Expr.Build
import SqlFilter.Proofs.Condition.OfExpr
import SqlFilter.Proofs.Grammar.Parts
/-! Member chains written as dotted paths. A field read is told by its path in full, however the path
is divided into members, and nothing else of a predicate looks at how it is divided. -/
namespace SqlFilter

/-- Two segments or more may be taken apart at their dots. If they tell a field, there is no dot in
them; and if what they are taken apart into tells one, it is no more than they were. -/
theorem FieldPath.agree_ofSegments {segments : List String} (two_le : 2 ≤ segments.length) :
    Agree (ofSegments segments) (ofSegments (segments.flatMap dottedSegments)) := by
  intro f
  constructor
  · intro h
    have hident := (ofSegments_eq_ok h).1
    rwa [flatMap_dottedSegments_of_isIdentifier hident]
  · intro h
    -- no segment can have given more than one, since there are two at most
    have hlength : (segments.flatMap dottedSegments).length ≤ segments.length :=
      calc (segments.flatMap dottedSegments).length
          ≤ 2 := (ofSegments_eq_ok h).2.1
        _ ≤ segments.length := two_le
    rwa [flatMap_dottedSegments_of_length_le hlength] at h

namespace Expr

/-- The path of a field read, in full. -/
def dottedPath? (e : Expr) : Option String :=
  e.segments?.map (".".intercalate ·)

theorem dottedPath?_field (path : String) : (Expr.field path).dottedPath? = some path := by
  rw [dottedPath?, segments?, Option.map_some, intercalate_dottedSegments]

theorem dottedPath?_of_reads {e : Expr} {segments : List String} (h : e.Reads segments) :
    e.dottedPath? = some (".".intercalate segments) := by
  rw [dottedPath?, reads_iff.1 h, Option.map_some]

/-- The path of a member is the path of what it is a member of, and the name. -/
theorem dottedPath?_member (target : Expr) (name : String) :
    (Expr.member target name).dottedPath? = target.dottedPath?.map (· ++ "." ++ name) := by
  unfold dottedPath?
  rw [segments?]
  cases htarget : target.segments? with
  | none => rfl
  | some init =>
    have hne : init ≠ [] := segments?_ne_nil htarget
    simp only [Option.map_some, intercalate_concat hne]

theorem isFieldRead_eq_isSome (e : Expr) : e.isFieldRead = e.dottedPath?.isSome := by
  rw [isFieldRead, dottedPath?, Option.isSome_map]

theorem Reads.agree_fieldPath {e : Expr} {segments : List String} (h : e.Reads segments) :
    Agree e.fieldPath (Expr.field (".".intercalate segments)).fieldPath := by
  rw [fieldPath_of_reads h, fieldPath_of_reads (.field _)]
  -- a path without members is taken apart at its dots as it is; only a name of a member can have more
  cases h with
  | field path =>
    rw [intercalate_dottedSegments]
    exact .refl _
  | @member target init htarget name =>
    have hinit : init ≠ [] := segments?_ne_nil (reads_iff.1 htarget)
    have hpos : 0 < init.length := List.length_pos_of_ne_nil hinit
    have two_le : 2 ≤ (init ++ [name]).length := by
      rw [List.length_append, List.length_singleton]
      omega
    rw [dottedSegments_intercalate (List.append_ne_nil_of_left_ne_nil hinit [name])]
    exact FieldPath.agree_ofSegments two_le

/-- The field of a read depends on its path only. -/
theorem agree_fieldPath {e e' : Expr} (h : e.dottedPath? = e'.dottedPath?) :
    Agree e.fieldPath e'.fieldPath := by
  by_cases hshape : e.IsFieldShaped
  · obtain ⟨segments, hreads⟩ := hshape
    have hpath := dottedPath?_of_reads hreads
    obtain ⟨segments', hsegments', hjoin⟩ := Option.map_eq_some_iff.1 (h.symm.trans hpath)
    have hfield := hreads.agree_fieldPath
    have hfield' := (reads_iff.2 hsegments').agree_fieldPath
    rw [hjoin] at hfield'
    exact fun f => (hfield f).trans (hfield' f).symm
  · have hshape' : ¬e'.IsFieldShaped := by
      rwa [isFieldShaped_iff, isFieldRead_eq_isSome, ← h, ← isFieldRead_eq_isSome,
        ← isFieldShaped_iff]
    rw [fieldPath_of_not_isFieldShaped hshape, fieldPath_of_not_isFieldShaped hshape']
    exact .errors _ _

/-- The second expression is the first one with some member chains on fields written as fields, whose
paths are the segments of the chains with dots between them. -/
inductive Dotted : Expr → Expr → Prop
  | same (e : Expr) : Dotted e e
  | chain {target : Expr} {name : String} {segments : List String}
      (h : Reads (.member target name) segments) :
      Dotted (.member target name) (.field (".".intercalate segments))
  | member {target target' : Expr} (h : Dotted target target') (name : String) :
      Dotted (.member target name) (.member target' name)
  | binary (op : BinaryOp) {left left' right right' : Expr} (hleft : Dotted left left')
      (hright : Dotted right right') : Dotted (.binary op left right) (.binary op left' right')
  | not {operand operand' : Expr} (h : Dotted operand operand') :
      Dotted (.not operand) (.not operand')
  | call (method : String) {target target' : Option Expr} {args args' : List Expr}
      (htarget : Option.Rel Dotted target target') (hargs : List.Forall₂ Dotted args args') :
      Dotted (.call method target args) (.call method target' args')

namespace Dotted
variable {e e' : Expr}

/-- A member of the field that a reference is to may be referred to itself. -/
theorem member_expr (f : FieldRef) (name : String) :
    Dotted (.member f.expr name) (f.member name).expr := by
  have hpath : ".".intercalate (dottedSegments f.path ++ [name]) = f.path ++ "." ++ name := by
    rw [intercalate_concat (dottedSegments_ne_nil f.path), intercalate_dottedSegments]
  rw [FieldRef.member, FieldRef.expr, FieldRef.expr, ← hpath]
  exact .chain (.member (.field f.path) name)

theorem dottedPath?_eq (h : e.Dotted e') : e.dottedPath? = e'.dottedPath? := by
  induction e using segments?.induct generalizing e' with
  | case1 path =>
    cases h with
    | same => rfl
  | case2 target name ih =>
    cases h with
    | same => rfl
    | chain hreads => rw [dottedPath?_of_reads hreads, dottedPath?_field]
    | member h => rw [dottedPath?_member, dottedPath?_member, ih h]
  | case3 e hfield hmember =>
    -- neither side of any other form reads a field
    cases h with
    | same => rfl
    | chain => exact (hmember _ _ rfl).elim
    | member => exact (hmember _ _ rfl).elim
    | binary | not | call => rfl

theorem isFieldRead_eq (h : e.Dotted e') : e.isFieldRead = e'.isFieldRead := by
  rw [isFieldRead_eq_isSome, isFieldRead_eq_isSome, h.dottedPath?_eq]

theorem agree_fieldPath (h : e.Dotted e') : Agree e.fieldPath e'.fieldPath :=
  Expr.agree_fieldPath h.dottedPath?_eq

/-- What stands for a value has no member chain on a field in it. -/
theorem standsFor_iff (h : e.Dotted e') (v : Value) : e.StandsFor v ↔ e'.StandsFor v := by
  constructor
  · intro hv
    cases hv with
    | constant v =>
      cases h with
      | same => exact .constant v
    | member hfind =>
      cases h with
      | same => exact .member hfind
      | chain hreads =>
        cases hreads with
        | member hcaptured => cases hcaptured
      | member hcaptured =>
        cases hcaptured with
        | same => exact .member hfind
  · intro hv
    cases hv with
    | constant v =>
      cases h with
      | same => exact .constant v
    | member hfind =>
      cases h with
      | same => exact .member hfind
      | member hcaptured =>
        cases hcaptured with
        | same => exact .member hfind

theorem agree_operand (h : e.Dotted e') : Agree e.operand e'.operand := by
  intro v
  rw [operand_eq_ok_iff, operand_eq_ok_iff, h.standsFor_iff]

theorem agree_collection (h : e.Dotted e') : Agree e.collection e'.collection := by
  intro items
  rw [collection_eq_ok_iff, collection_eq_ok_iff, h.standsFor_iff]

theorem agree_truthClause (h : e.Dotted e') (value : Bool) :
    Agree (e.truthClause value) (e'.truthClause value) :=
  h.agree_fieldPath.bind fun _ => .refl _

theorem agree_comparisonClause {left left' right right' : Expr} (op : BinaryOp)
    (hleft : left.Dotted left') (hright : right.Dotted right') :
    Agree (comparisonClause op left right) (comparisonClause op left' right') := by
  unfold comparisonClause
  cases Operator.ofComparison? op with
  | none => exact .refl _
  | some operator =>
    refine hleft.agree_fieldPath.bind fun field => hright.agree_operand.bind fun v => ?_
    -- only in the messages are the sides shown as they are written
    cases v with
    | null =>
      dsimp only
      split
      · exact .refl _
      · exact .errors _ _
    | list items => exact .errors _ _
    | _ => exact .refl _

theorem agree_matchClause {call call' receiver receiver' : Expr} {args args' : List Expr}
    (escape : Bool) (method : Method) (negated : Bool) (hreceiver : receiver.Dotted receiver')
    (hargs : List.Forall₂ Dotted args args') :
    Agree (matchClause escape method negated call receiver args)
      (matchClause escape method negated call' receiver' args') := by
  refine hreceiver.agree_fieldPath.bind fun field => ?_
  cases hargs with
  | nil => exact .errors _ _
  | cons harg _ => exact harg.agree_operand.bind fun v => .refl _

/-- The last argument that reads a field is the same one. -/
theorem rel_find?_isFieldRead {args args' : List Expr} (h : List.Forall₂ Dotted args args') :
    Option.Rel Dotted (args.find? isFieldRead) (args'.find? isFieldRead) := by
  induction h with
  | nil => exact .none
  | @cons arg arg' _ _ harg _ ih =>
    rw [List.find?_cons, List.find?_cons, ← harg.isFieldRead_eq]
    cases arg.isFieldRead with
    | true => exact .some harg
    | false => exact ih

/-- Both the collection and the member of a membership test are found at the same places. -/
theorem rel_membershipParts? {target target' : Option Expr} {args args' : List Expr}
    (htarget : Option.Rel Dotted target target') (hargs : List.Forall₂ Dotted args args') :
    Option.Rel (fun p p' => p.1.Dotted p'.1 ∧ p.2.Dotted p'.2) (membershipParts? target args)
      (membershipParts? target' args') := by
  cases htarget with
  | some hcollection =>
    cases hargs with
    | nil => exact .none
    | cons harg _ => exact .some ⟨hcollection, harg⟩
  | none =>
    have hmember := rel_find?_isFieldRead (List.forall₂_reverse_iff.2 hargs)
    cases hargs with
    | nil => exact .none
    | @cons arg arg' rest rest' hcollection _ =>
      simp only [membershipParts?]
      generalize (arg :: rest).reverse.find? isFieldRead = member at hmember
      generalize (arg' :: rest').reverse.find? isFieldRead = member' at hmember
      cases hmember with
      | none => exact .none
      | some helement => exact .some ⟨hcollection, helement⟩

theorem agree_membershipClause {call call' : Expr} {target target' : Option Expr}
    {args args' : List Expr} (method : Method) (negated : Bool)
    (htarget : Option.Rel Dotted target target') (hargs : List.Forall₂ Dotted args args') :
    Agree (membershipClause method negated call target args)
      (membershipClause method negated call' target' args') := by
  have hrel := rel_membershipParts? htarget hargs
  unfold membershipClause
  generalize membershipParts? target args = parts at hrel
  generalize membershipParts? target' args' = parts' at hrel
  cases hrel with
  | none => exact .errors _ _
  | some hparts =>
    obtain ⟨hcollection, helement⟩ := hparts
    exact helement.agree_fieldPath.bind fun field =>
      hcollection.agree_collection.bind fun items => .refl _

theorem methodOn_eq {target target' : Option Expr} (htarget : Option.Rel Dotted target target')
    (kind : Method) : methodOn kind target = methodOn kind target' := by
  cases htarget with
  | none => rfl
  | some h => cases kind <;> simp only [methodOn, h.isFieldRead_eq]

theorem agree_callClause {target target' : Option Expr} {args args' : List Expr}
    (escape negated : Bool) (method : String) (htarget : Option.Rel Dotted target target')
    (hargs : List.Forall₂ Dotted args args') :
    Agree (callClause escape negated method target args)
      (callClause escape negated method target' args') := by
  refine (Agree.refl (Method.ofName method)).bind fun kind => ?_
  dsimp only
  rw [methodOn_eq htarget]
  -- what the method does on the target tells which of the two forms the call has
  cases methodOn kind target' with
  | startsWith | endsWith | stringContains =>
    cases htarget with
    | none => exact .refl _
    | some hreceiver =>
      dsimp only
      rw [hreceiver.isFieldRead_eq]
      split
      · exact agree_matchClause escape _ negated hreceiver hargs
      · exact .refl _
  | contains | elementOf => exact agree_membershipClause kind negated htarget hargs
  | any | all => exact .refl _

theorem agree_clause_not (escape : Bool) (h : e.Dotted e') :
    Agree (clause escape (.not e)) (clause escape (.not e')) := by
  cases h with
  | same => exact .refl _
  | chain hreads =>
    have hread : (Expr.member _ _).isFieldRead = true := isFieldShaped_iff.1 ⟨_, hreads⟩
    simp only [clause, hread, ↓reduceIte]
    exact (Dotted.chain hreads).agree_truthClause false
  | member h name =>
    have hmember := Dotted.member h name
    simp only [clause, hmember.isFieldRead_eq]
    split
    · exact hmember.agree_truthClause false
    · exact .errors _ _
  | binary | not => exact .errors _ _
  | call method htarget hargs => exact agree_callClause escape true method htarget hargs

theorem agree_clause (escape : Bool) (h : e.Dotted e') :
    Agree (clause escape e) (clause escape e') := by
  cases h with
  | same => exact .refl _
  | chain hreads => exact (Dotted.chain hreads).agree_truthClause true
  | member h name => exact (h.member name).agree_truthClause true
  | binary op hleft hright => exact agree_comparisonClause op hleft hright
  | not h => exact agree_clause_not escape h
  | call method htarget hargs => exact agree_callClause escape false method htarget hargs

theorem connective?_eq (h : e.Dotted e') : e.connective? = e'.connective? := by
  cases h <;> rfl

theorem agree_condition (escape : Bool) (h : e.Dotted e') :
    Agree (e.condition escape) (e'.condition escape) := by
  have halone {e e' : Expr} (h : e.Dotted e') (alone : e.connective? = none) :
      Agree (e.condition escape) (e'.condition escape) := by
    rw [condition_of_alone escape alone,
      condition_of_alone escape (h.connective?_eq.symm.trans alone)]
    exact (h.agree_clause escape).map _
  -- along the connectives; what stands between them has clauses that agree
  induction e using condition.induct generalizing e' with
  | case1 op left right connective hop ihl ihr =>
    cases h with
    | same => exact .refl _
    | binary op hleft hright =>
      simp only [condition, hop]
      exact (ihl hleft).bind fun l => (ihr hright).bind fun r => .refl _
  | case2 op left right hop => exact halone h hop
  | case3 e he => exact halone h (connective?_of_ne_binary he)

theorem agree_tree (escape : Bool) (h : e.Dotted e') :
    Agree (e.tree escape) (e'.tree escape) := by
  rw [tree_eq_map, tree_eq_map]
  exact (h.agree_condition escape).map _

/-- A predicate and the same with chains of members written as dotted paths compile to the same
query, or neither of them compiles, with any options and any schema. -/
theorem compile_eq_ok_iff (h : e.Dotted e') (compiler : Compiler) (q : Query) :
    compiler.compile e = .ok q ↔ compiler.compile e' = .ok q := by
  have htree := h.agree_tree compiler.options.escapeWildcards
  have hchecked : Agree (compiler.tree e) (compiler.tree e') := htree.bind fun t => .refl _
  exact hchecked.bind (fun t => .refl _) q

/-- Reads at all places of a predicate may be written either way, and a name with a dot in it is
refused either way. -/
theorem compile_eq_ok_iff_pet :
    let pet : FieldRef := SqlFilter.field "Pet"
    let whole (read : String → Expr) : Expr := .binary .and
      (.binary .eq (read "Name") (.constant (.text "Rex")))
      (.binary .or (.not (read "Old"))
        (.binary .or (.call "StartsWith" (some (read "Kind")) [.constant (.text "R")])
          (.call "Exists" none [.constant (.list [.int 1]), read "Id"])))
    let chained := whole fun name => .member pet.expr name
    let dotted := whole fun name => (pet.member name).expr
    let compiler : Compiler := ⟨⟨true, true⟩, some ⟨"Visits", [], none⟩⟩
    let q : Query := ⟨"PetName = @PetName_p0 AND " ++
      "(PetOld = @PetOld_p1 OR PetKind LIKE @PetKind_p2 ESCAPE '\\' OR PetId IN @PetId_p3)",
      [⟨"PetName_p0", .text "Rex"⟩, ⟨"PetOld_p1", .bool false⟩, ⟨"PetKind_p2", .text "R%"⟩,
        ⟨"PetId_p3", .list [.int 1]⟩]⟩
    chained.Dotted dotted ∧ compiler.compile chained = .ok q ∧ compiler.compile dotted = .ok q ∧
      ∀ q, compiler.compile (.member pet.expr "Kind.Name") ≠ .ok q ∧
        compiler.compile (pet.member "Kind.Name").expr ≠ .ok q := by
  intro pet whole chained dotted compiler q
  have hdotted : chained.Dotted dotted :=
    .binary _ (.binary _ (member_expr pet "Name") (.same _))
      (.binary _ (.not (member_expr pet "Old"))
        (.binary _ (.call _ (.some (member_expr pet "Kind")) (.cons (.same _) .nil))
          (.call _ .none (.cons (.same _) (.cons (member_expr pet "Id") .nil)))))
  have hchained : compiler.compile chained = .ok q := by
    simp only [compiler, chained, whole, pet, q]
    rfl
  refine ⟨hdotted, hchained, (compile_eq_ok_iff hdotted compiler q).1 hchained, ?_⟩
  intro q'
  have hchain : compiler.compile (.member pet.expr "Kind.Name") ≠ .ok q' := by
    have hfault : compiler.compile (.member pet.expr "Kind.Name") =
        .error (.unsupportedExpression "invalid field path 'Pet.Kind.Name'") := by
      simp only [compiler, pet]
      rfl
    simp [hfault]
  exact ⟨hchain, mt (compile_eq_ok_iff (member_expr pet "Kind.Name") compiler q').2 hchain⟩

end Dotted

end Expr
end SqlFilter
