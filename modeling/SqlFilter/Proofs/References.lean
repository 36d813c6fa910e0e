import SqlFilter.Proofs.Template
/-! The references of an SQL text. They are told by looking ahead, a quoted section or a name at a
time, and are those that the scan of the text finds character by character. -/
namespace SqlFilter
open Positional

/-- The names behind at signs, in the order of the text. A section in quotes goes on to the next
quote and holds none, and an at sign without a name after it is none. -/
def references : List Char → List String
  | [] => []
  | c :: cs =>
    if c = '\'' then references (cs.dropWhile (· ≠ '\'')).tail
    else if c = '@' ∧ cs.takeWhile isIdentifierChar ≠ [] then
      String.ofList (cs.takeWhile isIdentifierChar) :: references (cs.dropWhile isIdentifierChar)
    else references cs
termination_by cs => cs.length
decreasing_by
  all_goals
    have hname := (List.dropWhile_sublist isIdentifierChar (l := cs)).length_le
    have hquote := (List.dropWhile_sublist (· ≠ '\'') (l := cs)).length_le
    simp only [List.length_cons, List.length_tail]
    omega

def Positional.Piece.name? : Piece → Option String
  | .char _ => none
  | .reference name => some (String.ofList name)

theorem Template.names_pieces (t : Template) :
    t.pieces.filterMap Piece.name? = t.parameters.map (·.name) := by
  induction t with
  | nil => rfl
  | cons s t ih =>
    cases s with
    | char c =>
      rw [pieces, List.filterMap_cons]
      exact ih
    | parameter p =>
      rw [pieces, List.filterMap_cons, Piece.name?, parameters, List.map_cons, ← ih]
      simp only [String.ofList_toList]

theorem stopsName_dropWhile (cs : List Char) : StopsName (cs.dropWhile isIdentifierChar) := by
  have h := List.head?_dropWhile_not isIdentifierChar cs
  intro c hc
  rw [Option.mem_def.1 hc] at h
  simpa using h

/-- A scan within quotes goes on in the open behind the next quote. -/
theorem names_scan_quoted (cs : List Char) :
    (scan .quoted cs).filterMap Piece.name? =
      (scan .plain (cs.dropWhile (· ≠ '\'')).tail).filterMap Piece.name? := by
  induction cs with
  | nil => rfl
  | cons c cs ih =>
    by_cases hc : c = '\''
    · subst hc
      simp [scan, Piece.name?, List.filterMap_cons]
    · simpa [scan, hc, Piece.name?, List.filterMap_cons] using ih

theorem references_eq_scan (cs : List Char) :
    references cs = (scan .plain cs).filterMap Piece.name? := by
  fun_induction references cs with
  | case1 => rfl
  | case2 cs ih =>
    rw [ih, ← names_scan_quoted]
    rfl
  | case3 c cs hquote hc ih =>
    -- the name is the longest run of its characters, so the scan goes on in the open behind it
    obtain ⟨rfl, hne⟩ := hc
    have hname : ∀ d ∈ cs.takeWhile isIdentifierChar, isIdentifierChar d = true :=
      List.all_eq_true.1 List.all_takeWhile
    have hscan := scan_reference hne hname (stopsName_dropWhile cs)
    rw [List.takeWhile_append_dropWhile] at hscan
    rw [ih, hscan]
    rfl
  | case4 c cs hquote hc ih =>
    rw [ih]
    by_cases hat : c = '@'
    · have hempty : cs.takeWhile isIdentifierChar = [] := by simpa [hat] using hc
      simp [scan, hat, hempty, Piece.name?, List.filterMap_cons]
    · rw [scan_open hat hquote]
      rfl

end SqlFilter
