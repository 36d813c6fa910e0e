import SqlFilter.Proofs.References
/-! The sections of an SQL text. A text is split in one way only into quoted sections, references and
single characters, and binding by position looks at nothing but these sections. -/
namespace SqlFilter
open Positional

namespace Positional

/-- A quoted section with its quotes, a reference, or a character outside of both. -/
inductive Section
  | quoted (text : List Char)
  | reference (name : List Char)
  | other (c : Char)
deriving DecidableEq, Repr

/-- A text split from left to right. A quoted section goes on to the next quote, or to the end if
there is none. A reference has the longest name that there is, and an at sign without a name is a
character like any other. -/
inductive Splits : List Char → List Section → Prop
  | nil : Splits [] []
  | quoted {body rest : List Char} {ss : List Section} (hbody : '\'' ∉ body) (h : Splits rest ss) :
      Splits ('\'' :: (body ++ '\'' :: rest)) (.quoted ('\'' :: (body ++ ['\''])) :: ss)
  | unclosed {body : List Char} (hbody : '\'' ∉ body) :
      Splits ('\'' :: body) [.quoted ('\'' :: body)]
  | reference {name rest : List Char} {ss : List Section} (hne : name ≠ [])
      (hname : ∀ c ∈ name, isIdentifierChar c = true) (hrest : StopsName rest)
      (h : Splits rest ss) : Splits ('@' :: (name ++ rest)) (.reference name :: ss)
  | other {c : Char} {rest : List Char} {ss : List Section} (hquote : c ≠ '\'')
      (hat : c = '@' → StopsName rest) (h : Splits rest ss) : Splits (c :: rest) (.other c :: ss)

/-- The sections of a text, each found by looking ahead for its end. -/
def sections : List Char → List Section
  | [] => []
  | c :: cs =>
    if c = '\'' then
      .quoted (c :: (cs.takeWhile (· ≠ '\'') ++ (cs.dropWhile (· ≠ '\'')).take 1)) ::
        sections (cs.dropWhile (· ≠ '\'')).tail
    else if c = '@' ∧ cs.takeWhile isIdentifierChar ≠ [] then
      .reference (cs.takeWhile isIdentifierChar) :: sections (cs.dropWhile isIdentifierChar)
    else .other c :: sections cs
termination_by cs => cs.length
decreasing_by
  all_goals
    have hname := (List.dropWhile_sublist isIdentifierChar (l := cs)).length_le
    have hquote := (List.dropWhile_sublist (· ≠ '\'') (l := cs)).length_le
    simp only [List.length_cons, List.length_tail]
    omega

namespace Section

def name? : Section → Option String
  | .reference name => some (String.ofList name)
  | _ => none

def pieces : Section → List Piece
  | .quoted text => text.map .char
  | .reference name => [.reference name]
  | .other c => [.char c]

end Section

/-- What stands before the first quote. -/
theorem span_quote {body : List Char} (behind : List Char) (hbody : '\'' ∉ body)
    (hbehind : ∀ c ∈ behind.head?, c = '\'') :
    (body ++ behind).takeWhile (· ≠ '\'') = body ∧
      (body ++ behind).dropWhile (· ≠ '\'') = behind := by
  have hbody' : ∀ c ∈ body, decide (c ≠ '\'') = true := by
    intro c hc
    rw [decide_eq_true_eq]
    rintro rfl
    exact hbody hc
  rw [List.takeWhile_append_of_pos hbody', List.dropWhile_append_of_pos hbody']
  cases behind with
  | nil => simp
  | cons c cs =>
    obtain rfl := hbehind c rfl
    simp

theorem takeWhile_eq_nil_iff {cs : List Char} :
    cs.takeWhile isIdentifierChar = [] ↔ StopsName cs := by
  cases cs with
  | nil => simp
  | cons c cs => simp [List.takeWhile_cons, StopsName]

theorem splits_sections (cs : List Char) : Splits cs (sections cs) := by
  fun_induction sections cs with
  | case1 => exact .nil
  | case2 cs ih =>
    by_cases hquote : '\'' ∈ cs
    · obtain ⟨body, rest, rfl, hbody⟩ := List.eq_append_cons_of_mem hquote
      obtain ⟨htake, hdrop⟩ := span_quote ('\'' :: rest) hbody (by simp)
      rw [hdrop, List.tail_cons] at ih
      rw [htake, hdrop]
      exact .quoted hbody ih
    · obtain ⟨htake, hdrop⟩ := span_quote [] hquote (by simp)
      rw [List.append_nil] at htake hdrop
      rw [htake, hdrop, List.take_nil, List.append_nil, List.tail_nil, sections]
      exact .unclosed hquote
  | case3 c cs hquote hc ih =>
    obtain ⟨rfl, hne⟩ := hc
    have hname : ∀ d ∈ cs.takeWhile isIdentifierChar, isIdentifierChar d = true :=
      List.all_eq_true.1 List.all_takeWhile
    have hsplits := Splits.reference hne hname (stopsName_dropWhile cs) ih
    rwa [List.takeWhile_append_dropWhile] at hsplits
  | case4 c cs hquote hc ih =>
    refine .other hquote ?_ ih
    intro hat
    exact takeWhile_eq_nil_iff.1 (by simpa [hat] using hc)

example : sections "@a@@b'@c''@".toList =
    [.reference ['a'], .other '@', .reference ['b'], .quoted "'@c'".toList, .quoted "'@".toList] := by
  cbv

theorem scan_quoted {body : List Char} (hbody : '\'' ∉ body) (behind : List Char) :
    scan .quoted (body ++ behind) = body.map .char ++ scan .quoted behind := by
  induction body with
  | nil => rfl
  | cons c body ih =>
    obtain ⟨hc, hbody⟩ := not_or.1 (mt List.mem_cons.2 hbody)
    simp [scan, Ne.symm hc, ih hbody]

theorem scan_section {body : List Char} (hbody : '\'' ∉ body) (rest : List Char) :
    scan .plain ('\'' :: (body ++ '\'' :: rest)) =
      ('\'' :: (body ++ ['\''])).map .char ++ scan .plain rest := by
  have hopening : scan .plain ('\'' :: (body ++ '\'' :: rest)) =
      .char '\'' :: scan .quoted (body ++ '\'' :: rest) := rfl
  have hclosing : scan .quoted ('\'' :: rest) = .char '\'' :: scan .plain rest := rfl
  rw [hopening, scan_quoted hbody, hclosing]
  simp

theorem scan_section_unclosed {body : List Char} (hbody : '\'' ∉ body) :
    scan .plain ('\'' :: body) = ('\'' :: body).map .char := by
  have hopening : scan .plain ('\'' :: body) = .char '\'' :: scan .quoted body := rfl
  have hscan := scan_quoted hbody []
  rw [List.append_nil] at hscan
  rw [hopening, hscan]
  simp [scan]

theorem scan_other {c : Char} {rest : List Char} (hquote : c ≠ '\'')
    (hat : c = '@' → StopsName rest) : scan .plain (c :: rest) = .char c :: scan .plain rest := by
  by_cases hc : c = '@'
  · have hname : rest.takeWhile isIdentifierChar = [] := takeWhile_eq_nil_iff.2 (hat hc)
    simp [scan, hc, hname]
  · exact scan_open hc hquote rest

/-- The scan, which goes by single characters, finds the sections. -/
theorem scan_eq_flatMap {cs : List Char} {ss : List Section} (h : Splits cs ss) :
    scan .plain cs = ss.flatMap Section.pieces := by
  induction h with
  | nil => rfl
  | quoted hbody _ ih =>
    rw [scan_section hbody, ih]
    rfl
  | unclosed hbody =>
    rw [scan_section_unclosed hbody, List.flatMap_singleton]
    rfl
  | reference hne hname hrest _ ih =>
    rw [scan_reference hne hname hrest, ih]
    rfl
  | other hquote hat _ ih =>
    rw [scan_other hquote hat, ih]
    rfl

variable {ps : List Parameter}

theorem names_pieces (ss : List Section) :
    (ss.flatMap Section.pieces).filterMap Piece.name? = ss.filterMap Section.name? := by
  induction ss with
  | nil => rfl
  | cons s ss ih =>
    rw [List.flatMap_cons, List.filterMap_append, ih]
    cases s with
    | quoted text =>
      have hnone : (text.map Piece.char).filterMap Piece.name? = [] := by
        rw [List.filterMap_map]
        simp [Function.comp_def, Piece.name?]
      rw [Section.pieces, hnone]
      rfl
    | reference name => rfl
    | other c => rfl

end Positional

end SqlFilter
