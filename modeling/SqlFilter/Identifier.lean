/-! Plain names: what may stand unquoted in SQL text and in parameter names.
Everything here is ASCII; a letter of another script is no identifier character. -/
namespace SqlFilter

/-- A character allowed after the first one of an identifier. -/
def isIdentifierChar (c : Char) : Bool :=
  c.isAlphanum || c == '_'

/-- A character that may begin an identifier. -/
def isIdentifierStart (c : Char) : Bool :=
  c.isAlpha || c == '_'

/-- A letter or underscore, then letters, digits and underscores. -/
def isIdentifier (s : String) : Bool :=
  match s.toList with
  | [] => false
  | c :: cs => isIdentifierStart c && cs.all isIdentifierChar

/-- The pieces of a text between the occurrences of a separator; there is always at least one. -/
def pieces (sep : Char) : List Char → List (List Char)
  | [] => [[]]
  | c :: cs =>
    if c = sep then [] :: pieces sep cs
    else match pieces sep cs with
      | [] => [[c]]
      | p :: ps => (c :: p) :: ps

/-- The segments of a dotted name, empty ones included. -/
def dottedSegments (s : String) : List String :=
  (pieces '.' s.toList).map String.ofList

/-- A name whose every dotted segment is an identifier, such as `dbo.Users`. -/
def isDottedIdentifier (s : String) : Bool :=
  (dottedSegments s).all isIdentifier

theorem isIdentifierChar_of_isIdentifierStart {c : Char} (h : isIdentifierStart c = true) :
    isIdentifierChar c = true := by
  simp only [isIdentifierStart, isIdentifierChar, Char.isAlphanum, Bool.or_eq_true] at h ⊢
  exact h.imp_left Or.inl

theorem pieces_ne_nil (sep : Char) (cs : List Char) : pieces sep cs ≠ [] := by
  cases cs with
  | nil => simp [pieces]
  | cons c cs =>
    unfold pieces
    split
    · simp
    · split <;> simp

/-- Joining the pieces with the separator gives the text back. -/
theorem intercalate_pieces (sep : Char) (cs : List Char) :
    [sep].intercalate (pieces sep cs) = cs := by
  induction cs with
  | nil => rfl
  | cons c cs ih =>
    obtain ⟨p, ps, hp⟩ := List.exists_cons_of_ne_nil (pieces_ne_nil sep cs)
    rw [hp] at ih
    unfold pieces
    split
    · rename_i hc
      subst hc
      rw [hp]
      simpa [List.intercalate] using ih
    · rw [hp]
      cases ps with
      | nil => simpa [List.intercalate] using ih
      | cons q qs => simpa [List.intercalate] using ih

end SqlFilter
