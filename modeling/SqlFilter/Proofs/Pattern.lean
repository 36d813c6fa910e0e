import Mathlib.Data.List.Infix
import SqlFilter.Proofs.Condition.Print
import SqlFilter.Proofs.Grammar.Call
/-! What patterns match. A text that is escaped is read back from the pattern as it was, so a string
match with escaped wildcards finds the text itself and nothing else. -/
namespace SqlFilter

/-- What is read off a pattern: a character that stands for itself, or a wildcard. -/
inductive PatternSign
  | literal (c : Char)
  | anyOne
  | anyRun
deriving DecidableEq, Repr

namespace PatternSign

/-- The signs of a pattern. A backslash makes the next character literal, and there has to be one. -/
def read? : List Char → Option (List PatternSign)
  | [] => some []
  | ['\\'] => none
  | '\\' :: c :: cs => (read? cs).map (.literal c :: ·)
  | '%' :: cs => (read? cs).map (.anyRun :: ·)
  | '_' :: cs => (read? cs).map (.anyOne :: ·)
  | c :: cs => (read? cs).map (.literal c :: ·)

/-- Whether signs match the whole of a text. -/
def accepts : List PatternSign → List Char → Bool
  | [], cs => cs.isEmpty
  | .anyRun :: signs, cs => cs.tails.any (accepts signs)
  | _ :: _, [] => false
  | .anyOne :: signs, _ :: cs => accepts signs cs
  | .literal d :: signs, c :: cs => d == c && accepts signs cs

end PatternSign

/-- Whether a pattern matches a text, if the pattern is well formed. -/
def likeMatches? (pattern s : String) : Option Bool :=
  (PatternSign.read? pattern.toList).map (PatternSign.accepts · s.toList)

/-- A character as it stands in a pattern that is to match it. -/
def escapeSign (c : Char) : List Char :=
  if c = '\\' ∨ c = '%' ∨ c = '_' then ['\\', c] else [c]

/-- Three replacements in turn escape each sign once, since the backslash is the first of them. -/
theorem toList_escapePattern (s : String) :
    (escapePattern s).toList = s.toList.flatMap escapeSign := by
  simp only [escapePattern, Text.replaceChar, String.toList_ofList, List.flatMap_assoc]
  refine List.flatMap_congr ?_
  intro c _
  by_cases hescape : c = '\\'
  · subst hescape
    decide
  by_cases hrun : c = '%'
  · subst hrun
    decide
  by_cases hone : c = '_'
  · subst hone
    decide
  -- none of the three replacements touches any other character
  simp [escapeSign, hescape, hrun, hone]

namespace PatternSign

theorem accepts_anyRun {signs : List PatternSign} {cs : List Char} :
    accepts (.anyRun :: signs) cs = true ↔ ∃ ds, ds <:+ cs ∧ accepts signs ds = true := by
  simp [accepts]

theorem accepts_run_end (cs : List Char) : accepts [.anyRun] cs = true :=
  accepts_anyRun.2 ⟨[], List.nil_suffix, rfl⟩

/-- Literals take the characters that they stand for off the front of the text. -/
theorem accepts_literals {text : List Char} {signs : List PatternSign} {cs : List Char} :
    accepts (text.map .literal ++ signs) cs = true ↔
      ∃ ds, cs = text ++ ds ∧ accepts signs ds = true := by
  induction text generalizing cs with
  | nil => simp
  | cons d text ih =>
    cases cs with
    | nil => simp [accepts]
    | cons c cs =>
      have hstep : accepts ((d :: text).map .literal ++ signs) (c :: cs) =
          (d == c && accepts (text.map .literal ++ signs) cs) := rfl
      rw [hstep, Bool.and_eq_true, beq_iff_eq, ih]
      constructor
      · rintro ⟨rfl, ds, rfl, hds⟩
        exact ⟨ds, rfl, hds⟩
      · rintro ⟨ds, hcs, hds⟩
        obtain ⟨rfl, rfl⟩ := List.cons.inj hcs
        exact ⟨rfl, ds, rfl, hds⟩

theorem accepts_prefix_iff {text cs : List Char} :
    accepts (text.map .literal ++ [.anyRun]) cs = true ↔ text <+: cs := by
  rw [accepts_literals]
  constructor
  · rintro ⟨ds, rfl, -⟩
    exact List.prefix_append text ds
  · rintro ⟨ds, rfl⟩
    exact ⟨ds, rfl, accepts_run_end ds⟩

theorem accepts_suffix_iff {text cs : List Char} :
    accepts (.anyRun :: text.map .literal) cs = true ↔ text <:+ cs := by
  have hliterals (ds : List Char) : accepts (text.map .literal) ds = true ↔ ds = text := by
    have hall : accepts (text.map .literal ++ []) ds = true ↔
        ∃ es, ds = text ++ es ∧ accepts [] es = true := accepts_literals
    simpa [accepts] using hall
  rw [accepts_anyRun]
  simp only [hliterals, exists_eq_right]

theorem accepts_infix_iff {text cs : List Char} :
    accepts (.anyRun :: (text.map .literal ++ [.anyRun])) cs = true ↔ text <:+: cs := by
  rw [accepts_anyRun, List.infix_iff_prefix_suffix]
  simp only [accepts_prefix_iff, and_comm]

theorem read?_plain {c : Char} (hescape : c ≠ '\\') (hrun : c ≠ '%') (hone : c ≠ '_')
    (cs : List Char) : read? (c :: cs) = (read? cs).map (.literal c :: ·) := by
  rw [read?]
  · exact fun h _ => hescape h
  · exact fun _ _ h _ => hescape h
  · exact hrun
  · exact hone

/-- Escaped text is read as the literals of the text, whatever stands after it. -/
theorem read?_escapePattern (text : String) (rest : List Char) :
    read? ((escapePattern text).toList ++ rest) =
      (read? rest).map (text.toList.map .literal ++ ·) := by
  rw [toList_escapePattern]
  induction text.toList with
  | nil => simp
  | cons c cs ih =>
    rw [List.flatMap_cons, List.append_assoc, escapeSign]
    split
    · -- the backslash before the sign is read together with it
      rename_i hsign
      have hread (tail : List Char) : read? ('\\' :: c :: tail) =
          (read? tail).map (.literal c :: ·) := by rw [read?]
      rw [List.cons_append, List.singleton_append, hread, ih]
      cases read? rest <;> rfl
    · rename_i hsign
      simp only [not_or] at hsign
      obtain ⟨hescape, hrun, hone⟩ := hsign
      rw [List.singleton_append, read?_plain hescape hrun hone, ih]
      cases read? rest <;> rfl

end PatternSign

namespace Method

/-- Where a string match looks for its text: at the start, at the end or anywhere. -/
def Finds : Method → List Char → List Char → Prop
  | .startsWith, text, s => text <+: s
  | .endsWith, text, s => text <:+ s
  | .stringContains, text, s => text <:+: s
  | _, _, _ => False

/-- The pattern of an escaped text matches where the text is found. -/
theorem likeMatches?_wildcards {method : Method} {text pattern : String}
    (h : method.wildcards (escapePattern text) = .ok pattern) (s : String) :
    ∃ found, likeMatches? pattern s = some found ∧
      (found = true ↔ method.Finds text.toList s.toList) := by
  have hread := PatternSign.read?_escapePattern text
  have hopened (cs : List Char) : PatternSign.read? ("%".toList ++ cs) =
      (PatternSign.read? cs).map (.anyRun :: ·) := by
    change PatternSign.read? ('%' :: cs) = _
    rw [PatternSign.read?]
  -- the wildcards stand outside of the escaped text, so they stay wildcards
  cases method with
  | startsWith =>
    obtain rfl := Except.ok.inj h
    have hsigns : PatternSign.read? (escapePattern text ++ "%").toList =
        some (text.toList.map .literal ++ [.anyRun]) := by
      rw [String.toList_append, hread]
      rfl
    rw [likeMatches?, hsigns]
    exact ⟨_, rfl, PatternSign.accepts_prefix_iff⟩
  | endsWith =>
    obtain rfl := Except.ok.inj h
    have hsigns : PatternSign.read? ("%" ++ escapePattern text).toList =
        some (.anyRun :: text.toList.map .literal) := by
      have hclosed := hread []
      rw [List.append_nil] at hclosed
      rw [String.toList_append, hopened, hclosed]
      simp [PatternSign.read?]
    rw [likeMatches?, hsigns]
    exact ⟨_, rfl, PatternSign.accepts_suffix_iff⟩
  | stringContains =>
    obtain rfl := Except.ok.inj h
    have hsigns : PatternSign.read? ("%" ++ escapePattern text ++ "%").toList =
        some (.anyRun :: (text.toList.map .literal ++ [.anyRun])) := by
      rw [String.toList_append, String.toList_append, List.append_assoc, hopened, hread]
      rfl
    rw [likeMatches?, hsigns]
    exact ⟨_, rfl, PatternSign.accepts_infix_iff⟩
  | _ => simp [wildcards] at h

end Method

namespace Expr

/-- A predicate that joins no others compiles to its one clause. -/
theorem compile_of_clause {compiler : Compiler} {e : Expr} {a : Clause}
    (alone : e.connective? = none) (ha : clause compiler.options.escapeWildcards e = .ok a)
    (hdeclared : ∀ s ∈ compiler.schema, compiler.options.validateFields = true →
      a.nested = true ∨ s.hasColumn a.field = true) :
    compiler.compile e = .ok (a.render compiler.options.escapeWildcards 0) := by
  have htree : e.tree compiler.options.escapeWildcards = .ok (.leaf none a) := by
    rw [tree, linkedTree_of_alone _ none alone, ha, ok_map]
  have hvalid : compiler.validate (.leaf none a) = .ok () := by
    unfold Compiler.validate
    split
    · rfl
    · rename_i s hs
      split
      · rename_i hvalidate
        have hknown := hdeclared s hs hvalidate
        have hnone : s.undeclared? [a] = none := by
          simpa [Schema.undeclared?, or_iff_not_imp_left] using hknown
        simp only [ClauseTree.clauses, hnone]
      · rfl
  simp only [Compiler.compile, Compiler.tree, htree, hvalid, ok_bind, pure_eq_ok]
  rfl

theorem render_search {op : Operator} (hop : op.isPatternMatch = true) (field : FieldPath)
    (pattern : String) :
    (clauseOn field op (.text pattern)).render true 0 =
      ⟨field.name ++ (" " ++ op.token ++ " @") ++ numberedName field.name 0 ++ " ESCAPE '\\'",
        [⟨numberedName field.name 0, .text pattern⟩]⟩ := by
  have hrender : (clauseOn field op (.text pattern)).render true 0 =
      ⟨field.name ++ " " ++ op.token ++ " @" ++ numberedName field.name 0 ++
        (if true && op.isPatternMatch then " ESCAPE '\\'" else ""),
        [⟨numberedName field.name 0, .text pattern⟩]⟩ := rfl
  rw [hrender, hop]
  simp only [Bool.and_self, ↓reduceIte, String.append_assoc]

/-- A string match with escaped wildcards, and its negation, bind a well-formed pattern that matches
where the text of the value is found. -/
theorem compile_finds_literally {compiler : Compiler}
    (hescape : compiler.options.escapeWildcards = true) {method : String} {target : Option Expr}
    {receiver arg : Expr} {rest : List Expr} {kind : Method} {field : FieldPath} {value : Value}
    (hcall : MatchesText method target receiver kind) (hfield : receiver.fieldPath = .ok field)
    (hvalue : arg.operand = .ok value) (hscalar : value.items? = none)
    (hdeclared : ∀ s ∈ compiler.schema, compiler.options.validateFields = true →
      field.nested = true ∨ s.hasColumn field.name = true) :
    let call : Expr := .call method target (arg :: rest)
    let name := numberedName field.name 0
    ∃ pattern,
      compiler.compile call =
        .ok ⟨field.name ++ " LIKE @" ++ name ++ " ESCAPE '\\'", [⟨name, .text pattern⟩]⟩ ∧
      compiler.compile (.not call) =
        .ok ⟨field.name ++ " NOT LIKE @" ++ name ++ " ESCAPE '\\'", [⟨name, .text pattern⟩]⟩ ∧
      ∀ s, ∃ found, likeMatches? pattern s = some found ∧
        (found = true ↔ kind.Finds value.display.toList s.toList) := by
  intro call name
  obtain ⟨pattern, hpattern⟩ := exists_pattern hcall.isPatternMatch true hscalar
  have hclause (negated : Bool) : callClause true negated method target (arg :: rest) =
      .ok (clauseOn field (if negated then .notLike else .like) (.text pattern)) := by
    rw [hcall.callClause_eq, matchClause, hfield, ok_bind]
    simp only [hvalue, hpattern, ok_bind, pure_eq_ok,
      Method.operator_of_isPatternMatch hcall.isPatternMatch]
  have hcompile {e : Expr} {a : Clause} (alone : e.connective? = none)
      (ha : clause true e = .ok a) (hfields : a.field = field.name ∧ a.nested = field.nested) :
      compiler.compile e = .ok (a.render true 0) := by
    rw [← hescape] at ha ⊢
    exact compile_of_clause alone ha (by rwa [hfields.1, hfields.2])
  refine ⟨pattern, ?_, ?_, ?_⟩
  · rw [hcompile (e := call) rfl (hclause false) ⟨rfl, rfl⟩]
    exact congrArg Except.ok (render_search rfl field pattern)
  · rw [hcompile (e := .not call) rfl (hclause true) ⟨rfl, rfl⟩]
    exact congrArg Except.ok (render_search rfl field pattern)
  · rw [Method.pattern, hscalar] at hpattern
    exact Method.likeMatches?_wildcards hpattern

theorem compile_finds_literally_signs :
    let compiler : Compiler := ⟨⟨true, true⟩, some ⟨"Users", [.key "Id"], none⟩⟩
    let receiver : Expr := .member (.field "Address") "City"
    let call : Expr := .call "Contains" (some receiver) [.constant (.text "5%\\")]
    let name := "AddressCity_p0"
    let pattern := "%5\\%\\\\%"
    MatchesText "Contains" (some receiver) receiver .stringContains ∧
      receiver.fieldPath = .ok ⟨"AddressCity", true⟩ ∧
      compiler.compile call =
        .ok ⟨"AddressCity LIKE @AddressCity_p0 ESCAPE '\\'", [⟨name, .text pattern⟩]⟩ ∧
      compiler.compile (.not call) =
        .ok ⟨"AddressCity NOT LIKE @AddressCity_p0 ESCAPE '\\'", [⟨name, .text pattern⟩]⟩ ∧
      ∀ s, ∃ found, likeMatches? pattern s = some found ∧
        (found = true ↔ "5%\\".toList <:+: s.toList) := by
  intro compiler receiver call name pattern
  have hshape : receiver.IsFieldShaped := ⟨_, .member (.field "Address") "City"⟩
  have hcall : MatchesText "Contains" (some receiver) receiver .stringContains :=
    .search (Or.inl rfl) hshape
  have hfield : receiver.fieldPath = .ok ⟨"AddressCity", true⟩ := by rfl
  have hvalue : (Expr.constant (.text "5%\\")).operand = .ok (.text "5%\\") := rfl
  have hescape : compiler.options.escapeWildcards = true := rfl
  obtain ⟨pattern', hlike, hnotLike, hfound⟩ :=
    compile_finds_literally hescape hcall hfield hvalue rfl (fun _ _ _ => Or.inl rfl)
  have hpattern : compiler.compile call =
      .ok ⟨"AddressCity LIKE @AddressCity_p0 ESCAPE '\\'", [⟨name, .text pattern⟩]⟩ := by
    simp only [compiler, call, receiver, name, pattern]
    rfl
  have hsame : pattern' = pattern := by
    rw [hpattern] at hlike
    simp only [Except.ok.injEq, Query.mk.injEq, List.cons.injEq, Parameter.mk.injEq,
      Value.text.injEq] at hlike
    exact hlike.2.1.2.symm
  rw [hsame] at hnotLike hfound
  exact ⟨hcall, hfield, hpattern, hnotLike, hfound⟩

end Expr
end SqlFilter
