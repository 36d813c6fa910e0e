import SqlFilter.Proofs.Declared
import SqlFilter.Proofs.Grammar.Call
import SqlFilter.Proofs.OnePass
import SqlFilter.Proofs.Skeleton
/-! Predicates compiled with and without escaped wildcards. Both ways fail alike or write the same
fragments side by side: text that stays, and mentions of parameters. Only the mentions of string
matches differ, by what escapes the text that is looked for and by the clause that says so. -/
namespace SqlFilter

/-- Where a text mentions a parameter behind a field and an operator, with the value that is bound
for it as it is and the one that is bound with escaped wildcards. -/
structure Mention where
  field : String
  operator : Operator
  name : String
  value : Value
  escaped : Value

namespace Mention

def sql (escape : Bool) (m : Mention) : String :=
  m.field ++ " " ++ m.operator.token ++ " @" ++ m.name ++
    (if escape ∧ (m.operator = .like ∨ m.operator = .notLike) then " ESCAPE '\\'" else "")

def parameter (escape : Bool) (m : Mention) : Parameter :=
  ⟨m.name, if escape then m.escaped else m.value⟩

end Mention

/-- A part of a condition: text that stays, or a mention of a parameter. -/
inductive Fragment
  | text (s : String)
  | mention (m : Mention)

namespace Fragment

def mention? : Fragment → Option Mention
  | .text _ => none
  | .mention m => some m

def query (escape : Bool) : Fragment → Query
  | .text s => .ofText s
  | .mention m => ⟨m.sql escape, [m.parameter escape]⟩

/-- Fragments one after the other. -/
def queryOf (escape : Bool) : List Fragment → Query
  | [] => .ofText ""
  | f :: fs => f.query escape ++ queryOf escape fs

theorem queryOf_append (escape : Bool) (fs gs : List Fragment) :
    queryOf escape (fs ++ gs) = queryOf escape fs ++ queryOf escape gs := by
  induction fs with
  | nil =>
    ext1
    · simp [queryOf]
    · simp [queryOf]
  | cons f fs ih => rw [List.cons_append, queryOf, queryOf, ih, Query.append_assoc]

theorem queryOf_singleton (escape : Bool) (f : Fragment) : queryOf escape [f] = f.query escape :=
  Query.append_ofText_empty _

end Fragment

namespace Expr

/-- What an operand binds without and with escaped wildcards. In a string match the text that is
looked for is escaped within its wildcards; every other operand binds the same value. -/
inductive Binds : Expr → Operator → Value → Value → Prop
  | search {negated : Bool} {method : String} {target : Option Expr} {receiver arg : Expr}
      {rest : List Expr} {kind : Method} {v : Value} {pattern escaped : String}
      (hcall : MatchesText method target receiver kind) (hvalue : arg.operand = .ok v)
      (hpattern : kind.wildcards v.display = .ok pattern)
      (hescaped : kind.wildcards (escapePattern v.display) = .ok escaped) :
      Binds (calling negated method target (arg :: rest)) (if negated then .notLike else .like)
        (.text pattern) (.text escaped)
  | same {o : Expr} {op : Operator} {v : Value} (hlike : op ≠ .like) (hnotLike : op ≠ .notLike) :
      Binds o op v v

/-- An operand tests the field of a mention, and binds its values. -/
structure Mentions (o : Expr) (m : Mention) : Prop where
  field : ∃ nested, o.testedField? = some ⟨m.field, nested⟩
  binds : o.Binds m.operator m.value m.escaped

/-- The clauses of an operand without and with escaped wildcards. -/
def EscapesTo (o : Expr) (a a' : Clause) : Prop :=
  ∃ v, a' = { a with value := v } ∧ o.Binds a.operator a.value v

theorem Binds.isNull_eq {o : Expr} {op : Operator} {v v' : Value} (h : o.Binds op v v') :
    v'.isNull = v.isNull := by
  cases h with
  | search => rfl
  | same => rfl

end Expr

namespace Fragment

/-- Fragments written for some operands: a mention for each of them that does not compare with null,
in order, and text that mentions no parameter. -/
structure Covers (os : List Expr) (fs : List Fragment) : Prop where
  text_plain : ∀ s, .text s ∈ fs → '@' ∉ s.toList
  mentions : List.Forall₂ Expr.Mentions (os.filter fun o => !o.comparesWithNull)
    (fs.filterMap mention?)

theorem Covers.append {os os' : List Expr} {fs fs' : List Fragment} (h : Covers os fs)
    (h' : Covers os' fs') : Covers (os ++ os') (fs ++ fs') := by
  refine ⟨?_, ?_⟩
  · intro s hs
    rcases List.mem_append.1 hs with hs | hs
    · exact h.text_plain s hs
    · exact h'.text_plain s hs
  · rw [List.filter_append, List.filterMap_append]
    exact List.rel_append h.mentions h'.mentions

theorem covers_text {s : String} (hs : '@' ∉ s.toList) : Covers [] [.text s] := by
  refine ⟨?_, .nil⟩
  intro s' hs'
  obtain rfl := Fragment.text.inj (List.mem_singleton.1 hs')
  exact hs

/-- A test for null is text. -/
theorem covers_null {o : Expr} {s : String} (ho : o.comparesWithNull = true) (hs : '@' ∉ s.toList) :
    Covers [o] [.text s] := by
  have hfilter : [o].filter (fun o => !o.comparesWithNull) = [] := by simp [ho]
  refine ⟨(covers_text hs).text_plain, ?_⟩
  rw [hfilter]
  exact .nil

/-- Any other test is a mention. -/
theorem covers_mention {o : Expr} {m : Mention} (ho : o.comparesWithNull = false)
    (hm : o.Mentions m) : Covers [o] [.mention m] := by
  have hfilter : [o].filter (fun o => !o.comparesWithNull) = [o] := by simp [ho]
  refine ⟨by simp, ?_⟩
  rw [hfilter]
  exact .cons hm .nil

end Fragment

namespace Sheet
open Fragment

/-- Two sheets on which the same fragments stand, without and with escaped wildcards. -/
structure Alike (fs : List Fragment) (s s' : Sheet) : Prop where
  counter_eq : s'.counter = s.counter
  plain : s.query = queryOf false fs
  escaped : s'.query = queryOf true fs

variable {fs : List Fragment} {s s' : Sheet}

theorem query_add (s : Sheet) (q : Query) : (s.add q).query = s.query ++ q := rfl

/-- One more fragment on both sheets. -/
theorem Alike.add (h : Alike fs s s') (f : Fragment) :
    Alike (fs ++ [f]) (s.add (f.query false)) (s'.add (f.query true)) := by
  have hlength : (f.query true).parameters.length = (f.query false).parameters.length := by
    cases f <;> rfl
  refine ⟨?_, ?_, ?_⟩
  · rw [counter_add, counter_add, hlength, h.counter_eq]
  · rw [query_add, h.plain, queryOf_append, queryOf_singleton]
  · rw [query_add, h.escaped, queryOf_append, queryOf_singleton]

theorem Alike.write (h : Alike fs s s') (text : String) :
    Alike (fs ++ [.text text]) (s.write text) (s'.write text) := by
  rw [write_eq_add, write_eq_add]
  exact h.add (.text text)

/-- The clauses of an operand are written as one fragment. -/
theorem Alike.writeClause (h : Alike fs s s') {o : Expr} {a a' : Clause}
    (ha : Expr.clause false o = .ok a) (ha' : o.EscapesTo a a') :
    ∃ f, Alike (fs ++ [f]) (s.writeClause false a) (s'.writeClause true a') ∧ Covers [o] [f] := by
  obtain ⟨v, rfl, hbinds⟩ := ha'
  have hcompares := Expr.comparesWithNull_of_clause ha
  have hident := (Expr.clause_sound ha).field_identifier
  have hfield : '@' ∉ a.field.toList := not_mem_of_isIdentifier hident (by decide)
  by_cases hnull : a.value.isNull = true
  · -- a test for null is text, and the same on both sheets
    have hnull' : v.isNull = true := hbinds.isNull_eq.trans hnull
    let test := a.field ++ (if a.operator = .eq then " IS NULL" else " IS NOT NULL")
    have htest : '@' ∉ test.toList := by
      have hwords : '@' ∉ (if a.operator = .eq then " IS NULL" else " IS NOT NULL").toList := by
        split <;> decide
      rw [String.toList_append, List.mem_append, not_or]
      exact ⟨hfield, hwords⟩
    have hwrite := h.write test
    refine ⟨.text test, ?_, covers_null (hcompares.trans hnull) htest⟩
    simpa only [Sheet.writeClause, if_pos hnull, if_pos hnull'] using hwrite
  · -- the counters agree, so the parameter has one name on both
    have hnull' : ¬v.isNull = true := by rwa [hbinds.isNull_eq]
    let m : Mention := ⟨a.field, a.operator, numberedName a.field s.counter, a.value, v⟩
    have hplain : s.writeClause false a = s.add ((Fragment.mention m).query false) := by
      simp [Sheet.writeClause, hnull, Sheet.add, Fragment.query, Mention.sql, Mention.parameter,
        numberedName, m]
    have hescaped : s'.writeClause true { a with value := v } =
        s'.add ((Fragment.mention m).query true) := by
      simp [Sheet.writeClause, hnull', Sheet.add, Fragment.query, Mention.sql, Mention.parameter,
        numberedName, m, h.counter_eq]
    have hnone : o.comparesWithNull = false := hcompares.trans (Bool.eq_false_iff.2 hnull)
    have hmentions : o.Mentions m := ⟨⟨a.nested, Expr.testedField?_of_clause ha⟩, hbinds⟩
    refine ⟨.mention m, ?_, covers_mention hnone hmentions⟩
    rw [hplain, hescaped]
    exact h.add (.mention m)

/-- An operand of a connective is written alike, in parentheses or not, if it is so by itself. -/
theorem Alike.writeOperand (h : Alike fs s s') (enclosed : Bool) {os : List Expr}
    {plain escaped : Sheet → Except CompileError Sheet}
    (hwrite : ∀ {fs s s'}, Alike fs s s' →
      Paired (fun t t' => ∃ gs, Alike (fs ++ gs) t t' ∧ Covers os gs) (plain s) (escaped s')) :
    Paired (fun t t' => ∃ gs, Alike (fs ++ gs) t t' ∧ Covers os gs)
      (s.writeOperand enclosed plain) (s'.writeOperand enclosed escaped) := by
  have hopening : '@' ∉ "(".toList := by decide
  have hclosing : '@' ∉ ")".toList := by decide
  cases enclosed with
  | false => exact hwrite h
  | true =>
    refine (hwrite (h.write "(")).map ?_
    rintro t t' ⟨gs, halike, hcovers⟩
    have hparts := ((covers_text hopening).append hcovers).append (covers_text hclosing)
    -- the parentheses are fragments of no operand
    refine ⟨[.text "("] ++ gs ++ [.text ")"], ?_, by simpa using hparts⟩
    simpa only [List.append_assoc] using halike.write ")"

end Sheet

namespace Expr
open Fragment Sheet

end Expr

namespace Compiler

end Compiler
end SqlFilter
