import SqlFilter.Proofs.Identifier
import SqlFilter.Proofs.Result
import SqlFilter.Statement.Basic
/-! Texts in which parameters have places. A text with references is scanned as its template, and
binding puts the placeholders, dealt out in order, where the references stood. -/
namespace SqlFilter
open Positional

inductive Slot
  | char (c : Char)
  | parameter (p : Parameter)

abbrev Template := List Slot

/-- What stands in the place of a value that is bound under the given placeholders. -/
def Dialect.inPlace (d : Dialect) (marks : List String) : Value → String
  | .list [] => d.emptyList
  | .list _ => "(" ++ ", ".intercalate marks ++ ")"
  | _ => ", ".intercalate marks

namespace Template

/-- The text with a reference in every place. -/
def sql : Template → List Char
  | [] => []
  | .char c :: t => c :: sql t
  | .parameter p :: t => '@' :: (p.name.toList ++ sql t)

def parameters : Template → List Parameter
  | [] => []
  | .char _ :: t => parameters t
  | .parameter p :: t => p :: parameters t

/-- The values that the parameters bind, those of a list one by one. -/
def values (t : Template) : List Value :=
  t.parameters.flatMap fun p => elements p.value

/-- The text with placeholders in every place. Each parameter takes as many as it has values. -/
def filled (d : Dialect) : List String → Template → List Char
  | _, [] => []
  | marks, .char c :: t => c :: filled d marks t
  | marks, .parameter p :: t =>
    let count := (elements p.value).length
    (d.inPlace (marks.take count) p.value).toList ++ filled d (marks.drop count) t

/-- Every at sign begins a reference, and every reference ends where its name does. -/
def Delimited : Template → Prop
  | [] => True
  | .char c :: t => c ≠ '@' ∧ Delimited t
  | .parameter p :: t => isIdentifier p.name = true ∧ StopsName (sql t) ∧ Delimited t

def pieces : Template → List Piece
  | [] => []
  | .char c :: t => .char c :: pieces t
  | .parameter p :: t => .reference p.name.toList :: pieces t

/-- The text as a template without places. -/
def text (cs : List Char) : Template := cs.map .char

theorem sql_append (t u : Template) : sql (t ++ u) = sql t ++ sql u := by
  induction t with
  | nil => rfl
  | cons s t ih => cases s <;> simp [sql, ih]

theorem parameters_append (t u : Template) :
    parameters (t ++ u) = parameters t ++ parameters u := by
  induction t with
  | nil => rfl
  | cons s t ih => cases s <;> simp [parameters, ih]

theorem pieces_append (t u : Template) : pieces (t ++ u) = pieces t ++ pieces u := by
  induction t with
  | nil => rfl
  | cons s t ih => cases s <;> simp [pieces, ih]

theorem delimited_append {t u : Template} (ht : t.Delimited) (hu : u.Delimited)
    (hstop : StopsName u.sql) : Delimited (t ++ u) := by
  induction t with
  | nil => exact hu
  | cons s t ih =>
    cases s with
    | char c => exact ⟨ht.1, ih ht.2⟩
    | parameter p =>
      have hsql : StopsName (sql (t ++ u)) := by
        rw [sql_append]
        exact stopsName_append ht.2.1 hstop
      exact ⟨ht.1, hsql, ih ht.2.2⟩

theorem sql_text (cs : List Char) : sql (text cs) = cs := by
  induction cs with
  | nil => rfl
  | cons c cs ih => exact congrArg (c :: ·) ih

theorem parameters_text (cs : List Char) : parameters (text cs) = [] := by
  induction cs with
  | nil => rfl
  | cons c cs ih => exact ih

theorem pieces_text (cs : List Char) : pieces (text cs) = cs.map .char := by
  induction cs with
  | nil => rfl
  | cons c cs ih => exact congrArg (Piece.char c :: ·) ih

theorem delimited_text_append {cs : List Char} (hcs : '@' ∉ cs) {t : Template}
    (ht : t.Delimited) : Delimited (text cs ++ t) := by
  induction cs with
  | nil => exact ht
  | cons c cs ih =>
    obtain ⟨hc, hcs⟩ := not_or.1 (mt List.mem_cons.2 hcs)
    exact ⟨fun h => hc h.symm, ih hcs⟩

end Template

theorem scan_name {name rest : List Char} (hname : ∀ c ∈ name, isIdentifierChar c = true)
    (hrest : StopsName rest) : scan .name (name ++ rest) = scan .plain rest := by
  induction name with
  | nil =>
    cases rest with
    | nil => rfl
    | cons c cs =>
      have hc : isIdentifierChar c = false := hrest c rfl
      simp [scan, hc]
  | cons c name ih =>
    have hc := hname c List.mem_cons_self
    simp only [List.cons_append, scan, hc, and_self, ↓reduceIte]
    exact ih (fun d hd => hname d (List.mem_cons_of_mem c hd))

theorem scan_reference {name rest : List Char} (hne : name ≠ [])
    (hname : ∀ c ∈ name, isIdentifierChar c = true) (hrest : StopsName rest) :
    scan .plain ('@' :: (name ++ rest)) = .reference name :: scan .plain rest := by
  -- after the name the scan goes on as in the open
  have hempty : name.isEmpty = false := by simpa using hne
  simp [scan, takeWhile_name hname hrest, hempty, scan_name hname hrest]

theorem scan_open {c : Char} (hat : c ≠ '@') (hquote : c ≠ '\'') (cs : List Char) :
    scan .plain (c :: cs) = .char c :: scan .plain cs := by
  simp [scan, hat, hquote]

namespace Template

/-- The scan reads the template whatever stands after it. -/
def Scanned (t : Template) : Prop :=
  ∀ rest, StopsName rest → scan .plain (t.sql ++ rest) = t.pieces ++ scan .plain rest

theorem scanned_append {t u : Template} (ht : t.Scanned) (hu : u.Scanned)
    (hstop : StopsName u.sql) : Scanned (t ++ u) := by
  intro rest hrest
  rw [sql_append, pieces_append, List.append_assoc, ht _ (stopsName_append hstop hrest),
    hu rest hrest, List.append_assoc]

theorem scanned_text_append {cs : List Char} (hat : '@' ∉ cs) (hquote : '\'' ∉ cs) {t : Template}
    (ht : t.Scanned) : Scanned (text cs ++ t) := by
  intro rest hrest
  induction cs with
  | nil => exact ht rest hrest
  | cons c cs ih =>
    obtain ⟨hat, hats⟩ := not_or.1 (mt List.mem_cons.2 hat)
    obtain ⟨hquote, hquotes⟩ := not_or.1 (mt List.mem_cons.2 hquote)
    have hscan := scan_open (Ne.symm hat) (Ne.symm hquote) (sql (text cs ++ t) ++ rest)
    rw [ih hats hquotes] at hscan
    exact hscan

theorem scanned_parameter {p : Parameter} (hname : isIdentifier p.name = true) :
    Scanned [.parameter p] := by
  intro rest hrest
  obtain ⟨hne, hchars⟩ := isIdentifierChar_of_isIdentifier hname
  simpa [sql, pieces] using scan_reference hne hchars hrest

end Template

namespace Positional

theorem placeholders_add (d : Dialect) (bound m n : Nat) :
    placeholders d bound (m + n) = placeholders d bound m ++ placeholders d (bound + m) n := by
  simp [placeholders, List.range_add, Nat.add_assoc]

theorem length_placeholders (d : Dialect) (bound count : Nat) :
    (placeholders d bound count).length = count := by
  simp [placeholders]

theorem expansion_eq_inPlace (d : Dialect) (bound : Nat) (v : Value) :
    expansion d bound v = d.inPlace (placeholders d bound (elements v).length) v := by
  cases v with
  | list items => cases items <;> rfl
  | _ => rfl

/-- Binding a template fills its places with as many placeholders as it has values. -/
theorem bindPieces_pieces (d : Dialect) {ps : List Parameter} {t : Template}
    (hps : ∀ p ∈ t.parameters, parameterValue? ps p.name = some p.value) (bound : Nat) :
    bindPieces d ps bound t.pieces =
      .ok (t.filled d (placeholders d bound t.values.length), t.values) := by
  induction t generalizing bound with
  | nil => rfl
  | cons s t ih =>
    cases s with
    | char c =>
      have hbind := ih hps bound
      simp only [Template.pieces, bindPieces, hbind]
      rfl
    | parameter p =>
      have hp := hps p List.mem_cons_self
      have hbind := ih (fun p' hp' => hps p' (List.mem_cons_of_mem p hp'))
        (bound + (elements p.value).length)
      have hvalues : Template.values (.parameter p :: t) = elements p.value ++ Template.values t := rfl
      -- the placeholders split into those of this parameter and those of the rest
      have hlength := length_placeholders d bound (elements p.value).length
      simp only [Template.pieces, bindPieces, String.ofList_toList, hp, hbind, ok_bind,
        pure_eq_ok, hvalues, Template.filled, List.length_append, placeholders_add,
        List.take_left' hlength, List.drop_left' hlength, expansion_eq_inPlace]

end Positional
end SqlFilter
