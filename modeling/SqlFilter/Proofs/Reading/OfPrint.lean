import SqlFilter.Proofs.Reading.Reader
/-! Reading undoes printing: a flat condition that is printed is read back as it was, whatever its
fields are called. So the query of a predicate says the flat condition of the predicate. -/
namespace SqlFilter

def Place.IsAfterOperand (p : Place) : Prop :=
  p = .connective ∨ p = .afterPattern

namespace Level

/-- The level after further parts of a run, each of them after the connective. -/
def extend (op : Connective) (l : Level) (cs : List (Condition Test)) : Level :=
  cs.foldl (fun l c => (l.go op).put c) l

theorem extend_and (l : Level) (cs : List (Condition Test)) :
    l.extend .and cs = ⟨l.alternatives, l.conjuncts ++ cs⟩ := by
  induction cs generalizing l with
  | nil => simp [extend]
  | cons c cs ih =>
    change extend .and ((l.go .and).put c) cs = _
    simp [ih, go, put]

/-- Every part after an `OR` is an alternative of its own. -/
theorem extend_or (alternatives : List (Condition Test)) (c : Condition Test)
    (cs : List (Condition Test)) :
    ∃ init last, extend .or ⟨alternatives, [c]⟩ cs = ⟨init, [last]⟩ ∧
      init ++ [last] = alternatives ++ c :: cs := by
  induction cs generalizing alternatives c with
  | nil => exact ⟨alternatives, c, rfl, rfl⟩
  | cons d cs ih =>
    obtain ⟨init, last, hlevel, hparts⟩ := ih (alternatives ++ [c]) d
    exact ⟨init, last, hlevel, by simpa using hparts⟩

theorem condition_extend (op : Connective) (c : Condition Test) (cs : List (Condition Test)) :
    ((start.put c).extend op cs).condition = unite op (c :: cs) := by
  cases cs with
  | nil => rfl
  | cons d ds =>
    cases op with
    | and => simp [extend_and, start, put, condition, unite]
    | or =>
      obtain ⟨init, last, hlevel, hparts⟩ := extend_or [] c (d :: ds)
      have hstart : start.put c = ⟨[], [c]⟩ := rfl
      rw [hstart, hlevel]
      simp only [condition, unite, hparts, List.nil_append]

end Level

namespace Reader
variable (ps : List Parameter)

theorem run_nil (r : Reader) : run ps r [] = some r := rfl

theorem run_cons (r : Reader) (t : Token) (ts : List Token) :
    run ps r (t :: ts) = (step ps r t).bind fun r => run ps r ts := rfl

/-- What a reader makes of an operand, whatever stands around it. -/
def Reads (text : List Char) (c : Condition Test) : Prop :=
  ∀ level outer rest, StopsName rest → ∃ place : Place, place.IsAfterOperand ∧
    run ps ⟨.operand, level, outer⟩ (tokens (text ++ rest)) =
      run ps ⟨place, level.put c, outer⟩ (tokens rest)

theorem run_operator {op : Operator} {v : Value} (hop : op.Suits v) (field : String)
    (level : Level) (outer : List Level) (rest : List Char) :
    run ps ⟨.operator field, level, outer⟩ (tokens (op.token.toList ++ ' ' :: rest)) =
      run ps ⟨.value field op, level, outer⟩ (tokens rest) := by
  cases op with
  | eq | ne | lt | lte | gt | gte =>
    rw [tokens_sign (by decide) (List.all_eq_true.1 (by decide)), String.ofList_toList]
    rfl
  | like | isIn =>
    rw [tokens_identifier_blank (by decide)]
    rfl
  | notLike =>
    have htoken : Operator.notLike.token.toList ++ ' ' :: rest =
        "NOT".toList ++ ' ' :: ("LIKE".toList ++ ' ' :: rest) := rfl
    rw [htoken, tokens_identifier_blank (by decide), tokens_identifier_blank (by decide)]
    rfl
  | notIn =>
    have htoken : Operator.notIn.token.toList ++ ' ' :: rest =
        "NOT".toList ++ ' ' :: ("IN".toList ++ ' ' :: rest) := rfl
    rw [htoken, tokens_identifier_blank (by decide), tokens_identifier_blank (by decide)]
    rfl
  | any | all => exact hop.elim
  | verbatim token => exact hop.elim

theorem run_escape (level : Level) (outer : List Level) (rest : List Char) :
    run ps ⟨.afterPattern, level, outer⟩ (tokens (" ESCAPE '\\'".toList ++ rest)) =
      run ps ⟨.connective, level, outer⟩ (tokens rest) := by
  have htext : " ESCAPE '\\'".toList ++ rest =
      ' ' :: ("ESCAPE".toList ++ ' ' :: '\'' :: (['\\'] ++ '\'' :: rest)) := rfl
  rw [htext, tokens_blank, tokens_identifier_blank (by decide), tokens_quoted (by simp)]
  rfl

/-- A field is compared with a parameter, whatever its name and its value are. -/
theorem reads_compared {field name : String} {op : Operator} {v w : Value}
    (hfield : isIdentifier field = true) (hname : isIdentifier name = true) (hop : op.Suits w)
    (hps : parameterValue? ps name = some v) {escaped : Bool}
    (hescaped : escaped = true → op = .like ∨ op = .notLike) :
    Reads ps (field ++ " " ++ op.token ++ " @" ++ name ++
      (if escaped then " ESCAPE '\\'" else "")).toList (.test (.against field op v)) := by
  intro level outer rest hrest
  -- the text is a field, an operator and a reference, and then perhaps the escape character
  let ending := if escaped then " ESCAPE '\\'" else ""
  have htext : (field ++ " " ++ op.token ++ " @" ++ name ++ ending).toList ++ rest =
      field.toList ++ ' ' :: (op.token.toList ++ ' ' :: '@' ::
        (name.toList ++ (ending.toList ++ rest))) := by
    simp
  have hchars := (isIdentifierChar_of_isIdentifier hname).2
  have hending : StopsName (ending.toList ++ rest) := by
    cases escaped with
    | true =>
      simp only [ending, ↓reduceIte]
      exact stopsName_cons (by decide) _
    | false => exact hrest
  have hvalue : run ps ⟨.operand, level, outer⟩
        (tokens ((field ++ " " ++ op.token ++ " @" ++ name ++ ending).toList ++ rest)) =
      run ps ⟨if op = .like ∨ op = .notLike then .afterPattern else .connective,
        level.put (.test (.against field op v)), outer⟩ (tokens (ending.toList ++ rest)) := by
    rw [htext, tokens_identifier_blank hfield, run_cons]
    change run ps ⟨.operator field, level, outer⟩ _ = _
    rw [run_operator ps hop, tokens_reference hchars hending, run_cons, String.ofList_toList]
    simp [step, hps, put]
  rw [hvalue]
  -- the escape character only stands where the reader expects it
  cases escaped with
  | true =>
    rw [if_pos (hescaped rfl)]
    exact ⟨.connective, Or.inl rfl, run_escape ps _ _ _⟩
  | false =>
    refine ⟨if op = .like ∨ op = .notLike then .afterPattern else .connective, ?_, rfl⟩
    split
    · exact Or.inr rfl
    · exact Or.inl rfl

theorem reads_compared_plain {field name : String} {op : Operator} {v w : Value}
    (hfield : isIdentifier field = true) (hname : isIdentifier name = true) (hop : op.Suits w)
    (hps : parameterValue? ps name = some v) :
    Reads ps (field ++ (" " ++ op.token ++ " @") ++ name).toList (.test (.against field op v)) := by
  have hplain : false = true → op = .like ∨ op = .notLike := by simp
  have hcompared := reads_compared ps hfield hname hop hps hplain
  have htext : field ++ " " ++ op.token ++ " @" ++ name ++
      (if false then " ESCAPE '\\'" else "") = field ++ (" " ++ op.token ++ " @") ++ name := by
    simp only [Bool.false_eq_true, ↓reduceIte, String.append_empty, String.append_assoc]
  rwa [htext] at hcompared

theorem reads_against (escape : Bool) (index : Nat) {field : String} {op : Operator} {v : Value}
    (hfield : isIdentifier field = true) (hop : op.Suits v)
    (hps : parameterValue? ps (numberedName field index) = some v) :
    Reads ps ((Test.against field op v).print escape index).sql.toList
      (.test (.against field op v)) := by
  have hname := isIdentifier_numberedName hfield index
  refine reads_compared ps hfield hname hop hps ?_
  intro hescaped
  exact (Operator.isPatternMatch_iff hop).1 (Bool.and_eq_true_iff.1 hescaped).2

theorem reads_test (escape : Bool) (index : Nat) {t : Test} (ht : t.Readable)
    (hps : (t.print escape index).BoundIn ps) :
    Reads ps (t.print escape index).sql.toList (.test t) := by
  cases t with
  | isNull field =>
    intro level outer rest hrest
    have htext : ((Test.isNull field).print escape index).sql.toList ++ rest =
        field.toList ++ ' ' :: ("IS".toList ++ ' ' :: ("NULL".toList ++ rest)) := by
      simp [Test.print]
    refine ⟨.connective, Or.inl rfl, ?_⟩
    rw [htext, tokens_identifier_blank ht, tokens_identifier_blank (by decide),
      tokens_identifier (by decide) hrest]
    rfl
  | isNotNull field =>
    intro level outer rest hrest
    have htext : ((Test.isNotNull field).print escape index).sql.toList ++ rest =
        field.toList ++ ' ' :: ("IS".toList ++ ' ' :: ("NOT".toList ++ ' ' ::
          ("NULL".toList ++ rest))) := by
      simp [Test.print]
    refine ⟨.connective, Or.inl rfl, ?_⟩
    rw [htext, tokens_identifier_blank ht, tokens_identifier_blank (by decide),
      tokens_identifier_blank (by decide), tokens_identifier (by decide) hrest]
    rfl
  | against field op v =>
    exact reads_against ps escape index ht.1 ht.2 (hps _ (List.mem_singleton.2 rfl))

theorem run_connective {place : Place} (hplace : place.IsAfterOperand) (op : Connective)
    (level : Level) (outer : List Level) (rest : List Char) :
    run ps ⟨place, level, outer⟩ (tokens ((" " ++ op.token ++ " ").toList ++ rest)) =
      run ps ⟨.operand, level.go op, outer⟩ (tokens rest) := by
  have htext : (" " ++ op.token ++ " ").toList ++ rest =
      ' ' :: (op.token.toList ++ ' ' :: rest) := by simp
  rw [htext, tokens_blank]
  rcases hplace with rfl | rfl <;> cases op <;> rw [tokens_identifier_blank (by decide)] <;> rfl

theorem run_closing {place : Place} (hplace : place.IsAfterOperand) (level l : Level)
    (ls : List Level) (rest : List Char) :
    run ps ⟨place, level, l :: ls⟩ (tokens (')' :: rest)) =
      run ps ⟨.connective, l.put level.condition, ls⟩ (tokens rest) := by
  rw [tokens_closing]
  rcases hplace with rfl | rfl <;> rfl

/-- Operands with the connective between them are read into the level one after the other. -/
theorem run_intercalate (op : Connective) {s : String} {texts : List String} {c : Condition Test}
    {cs : List (Condition Test)}
    (h : List.Forall₂ (fun text c => Reads ps text.toList c) (s :: texts) (c :: cs))
    (level : Level) (outer : List Level) {rest : List Char} (hrest : StopsName rest) :
    ∃ place : Place, place.IsAfterOperand ∧
      run ps ⟨.operand, level, outer⟩
          (tokens (((" " ++ op.token ++ " ").intercalate (s :: texts)).toList ++ rest)) =
        run ps ⟨place, (level.put c).extend op cs, outer⟩ (tokens rest) := by
  induction texts generalizing s c cs level with
  | nil =>
    obtain ⟨hread, hnil⟩ := List.forall₂_cons.1 h
    obtain rfl := List.forall₂_nil_left_iff.1 hnil
    rw [String.intercalate_singleton]
    exact hread level outer rest hrest
  | cons s' texts ih =>
    obtain ⟨hread, hmore⟩ := List.forall₂_cons.1 h
    obtain ⟨c', cs', -, -, rfl⟩ := List.forall₂_cons_left_iff.1 hmore
    let more := ((" " ++ op.token ++ " ").intercalate (s' :: texts)).toList
    have hstop : StopsName ((" " ++ op.token ++ " ").toList ++ (more ++ rest)) := by
      simp only [String.toList_append, List.append_assoc]
      exact stopsName_cons (by decide) _
    obtain ⟨place₁, hplace₁, hfirst⟩ := hread level outer _ hstop
    obtain ⟨place₂, hplace₂, hrun⟩ := ih hmore ((level.put c).go op)
    refine ⟨place₂, hplace₂, ?_⟩
    rw [String.intercalate_cons_cons, String.toList_append, String.toList_append,
      List.append_assoc, List.append_assoc, hfirst, run_connective ps hplace₁, hrun]
    rfl

/-- Operands with the connective between them say one condition. -/
theorem readCondition?_intercalate (op : Connective) {texts : List String}
    {cs : List (Condition Test)} (hne : cs ≠ [])
    (h : List.Forall₂ (fun text c => Reads ps text.toList c) texts cs) :
    readCondition? ((" " ++ op.token ++ " ").intercalate texts) ps = some (Level.unite op cs) := by
  obtain ⟨c, cs, rfl⟩ := List.exists_cons_of_ne_nil hne
  obtain ⟨s, texts', -, -, rfl⟩ := List.forall₂_cons_right_iff.1 h
  obtain ⟨place, hplace, hrun⟩ := run_intercalate ps op h .start [] stopsName_nil
  rw [List.append_nil, tokens_nil, run_nil] at hrun
  rw [readCondition?, hrun, ← Level.condition_extend]
  rcases hplace with rfl | rfl <;> rfl

end Reader

namespace Condition
open Reader
variable (ps : List Parameter)

/-- The text of a run has texts of its parts with the connective between them. -/
theorem exists_texts_printRun (escape : Bool) (op : Connective) {cs : List (Condition Test)}
    (hcs : ∀ c ∈ cs, ∀ index, (c.printPart escape index).BoundIn ps →
      Reads ps (c.printPart escape index).sql.toList c)
    {index : Nat} (hbound : (printRun escape op index cs).BoundIn ps) :
    ∃ texts, (printRun escape op index cs).sql = (" " ++ op.token ++ " ").intercalate texts ∧
      List.Forall₂ (fun text c => Reads ps text.toList c) texts cs := by
  induction cs generalizing index with
  | nil => exact ⟨[], by simp [printRun], .nil⟩
  | cons c cs ih =>
    simp only [printRun] at hbound ⊢
    have hread := hcs c List.mem_cons_self index hbound.left
    cases cs with
    | nil => exact ⟨[(c.printPart escape index).sql], by simp [printMore], .cons hread .nil⟩
    | cons d ds =>
      rw [printMore_cons] at hbound ⊢
      obtain ⟨texts, htexts, hreads⟩ := ih (fun e he => hcs e (List.mem_cons_of_mem c he))
        hbound.right.right
      obtain ⟨s, texts', -, -, rfl⟩ := List.forall₂_cons_right_iff.1 hreads
      refine ⟨(c.printPart escape index).sql :: s :: texts', ?_, .cons hread hreads⟩
      rw [String.intercalate_cons_cons, ← htexts, Query.sql_append, Query.sql_append,
        Query.sql_ofText, ← String.append_assoc]

/-- A part of a condition is read back, in parentheses or not. -/
theorem reads_printPart (escape : Bool) {c : Condition Test} (hc : c.IsFlat)
    (hread : ∀ t ∈ c.tests, t.Readable) (index : Nat)
    (hbound : (c.printPart escape index).BoundIn ps) :
    Reads ps (c.printPart escape index).sql.toList c := by
  -- the parts are read by induction, each with the number where it was printed
  induction hc generalizing index with
  | test t =>
    exact reads_test ps escape index (hread t (by simp [tests])) hbound
  | @joined op parts two_le _ _ ih =>
    intro level outer rest hrest
    have hparts : ∀ p ∈ parts, ∀ index, (p.printPart escape index).BoundIn ps →
        Reads ps (p.printPart escape index).sql.toList p := by
      exact fun p hp => ih p hp (fun t ht => hread t (mem_testsOf hp ht))
    simp only [printPart] at hbound ⊢
    obtain ⟨texts, htexts, hreads⟩ := exists_texts_printRun ps escape op hparts hbound.left.right
    obtain ⟨p, p', rest', rfl⟩ := exists_two_parts two_le
    obtain ⟨s, texts', -, -, rfl⟩ := List.forall₂_cons_right_iff.1 hreads
    have hclosing : StopsName (')' :: rest) := stopsName_cons (by decide) rest
    obtain ⟨place, hplace, hrun⟩ := run_intercalate ps op hreads .start (level :: outer) hclosing
    refine ⟨.connective, Or.inl rfl, ?_⟩
    have htext : (Query.ofText "(" ++ printRun escape op index (p :: p' :: rest') ++
        Query.ofText ")").sql.toList ++ rest =
          '(' :: ((printRun escape op index (p :: p' :: rest')).sql.toList ++ ')' :: rest) := by
      simp
    -- the level around the parentheses waits until they are closed
    rw [htext, htexts, tokens_opening, run_cons]
    change Reader.run ps ⟨.operand, .start, level :: outer⟩ _ = _
    rw [hrun, run_closing ps hplace, Level.condition_extend]
    rfl

/-- A printed condition is read back as it was. -/
theorem readCondition?_print (escape : Bool) {c : Condition Test} (hc : c.IsFlat)
    (hread : ∀ t ∈ c.tests, t.Readable) {index : Nat} (hbound : (c.print escape index).BoundIn ps) :
    readCondition? (c.print escape index).sql ps = some c := by
  cases hc with
  | test t =>
    obtain ⟨place, hplace, hrun⟩ := reads_test ps escape index (hread t (by simp [tests])) hbound
      .start [] [] stopsName_nil
    rw [List.append_nil, tokens_nil, run_nil] at hrun
    rw [readCondition?, print, hrun]
    rcases hplace with rfl | rfl <;> rfl
  | @joined op parts two_le _ parts_flat =>
    have hparts : ∀ p ∈ parts, ∀ index, (p.printPart escape index).BoundIn ps →
        Reads ps (p.printPart escape index).sql.toList p := by
      exact fun p hp => reads_printPart ps escape (parts_flat p hp)
        (fun t ht => hread t (mem_testsOf hp ht))
    obtain ⟨texts, htexts, hreads⟩ := exists_texts_printRun ps escape op hparts hbound
    obtain ⟨p, p', rest, rfl⟩ := exists_two_parts two_le
    rw [print, htexts]
    exact readCondition?_intercalate ps op (List.cons_ne_nil _ _) hreads

end Condition

/-- The query of a predicate with a flat condition says this condition. -/
theorem Expr.Flattens.condition?_print {escape : Bool} {e : Expr} {c : Condition Clause}
    (h : e.Flattens escape c) :
    ((c.map Clause.test).print escape 0).condition? = some (c.map Clause.test) :=
  Condition.readCondition?_print _ escape (Condition.isFlat_map _ h.isFlat) h.readable
    (Condition.boundIn_parameters_print _ _ _)

end SqlFilter
