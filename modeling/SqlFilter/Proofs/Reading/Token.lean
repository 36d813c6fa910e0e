import SqlFilter.Proofs.Identifier
/-! The tokens of SQL conditions: names, comparison signs, references to parameters, quoted texts
and parentheses. Blanks only separate them. -/
namespace SqlFilter

inductive Token
  | word (name : String)
  | sign (text : String)
  | reference (name : String)
  | quoted (text : String)
  | opening
  | closing
  | other (c : Char)
deriving DecidableEq, Repr

/-- The characters of which signs of comparison are made. -/
def isSignChar (c : Char) : Bool :=
  c == '=' || c == '!' || c == '<' || c == '>'

/-- Splits a text into tokens. Names and signs are as long as they can be, and a quoted text goes on
to the next quote. -/
def tokens : List Char → List Token
  | [] => []
  | c :: cs =>
    if c = ' ' then tokens cs
    else if c = '(' then .opening :: tokens cs
    else if c = ')' then .closing :: tokens cs
    else if c = '@' then
      .reference (String.ofList (cs.takeWhile isIdentifierChar)) ::
        tokens (cs.dropWhile isIdentifierChar)
    else if c = '\'' then
      .quoted (String.ofList (cs.takeWhile (· ≠ '\''))) :: tokens (cs.dropWhile (· ≠ '\'')).tail
    else if isIdentifierChar c then
      .word (String.ofList (c :: cs.takeWhile isIdentifierChar)) ::
        tokens (cs.dropWhile isIdentifierChar)
    else if isSignChar c then
      .sign (String.ofList (c :: cs.takeWhile isSignChar)) :: tokens (cs.dropWhile isSignChar)
    else .other c :: tokens cs
termination_by cs => cs.length
decreasing_by
  all_goals
    have hname := (List.dropWhile_sublist isIdentifierChar (l := cs)).length_le
    have hsign := (List.dropWhile_sublist isSignChar (l := cs)).length_le
    have hquote := (List.dropWhile_sublist (· ≠ '\'') (l := cs)).length_le
    simp only [List.length_cons, List.length_tail]
    omega

theorem tokens_nil : tokens [] = [] := by rw [tokens]

theorem tokens_blank (cs : List Char) : tokens (' ' :: cs) = tokens cs := by
  rw [tokens, if_pos rfl]

theorem tokens_opening (cs : List Char) : tokens ('(' :: cs) = .opening :: tokens cs := by
  rw [tokens, if_neg (by decide), if_pos rfl]

theorem tokens_closing (cs : List Char) : tokens (')' :: cs) = .closing :: tokens cs := by
  rw [tokens, if_neg (by decide), if_neg (by decide), if_pos rfl]

theorem tokens_reference {name rest : List Char} (hname : ∀ c ∈ name, isIdentifierChar c = true)
    (hrest : StopsName rest) :
    tokens ('@' :: (name ++ rest)) = .reference (String.ofList name) :: tokens rest := by
  rw [tokens, if_neg (by decide), if_neg (by decide), if_neg (by decide), if_pos rfl,
    takeWhile_name hname hrest, dropWhile_name hname hrest]

theorem tokens_word {name rest : List Char} (hne : name ≠ [])
    (hname : ∀ c ∈ name, isIdentifierChar c = true) (hrest : StopsName rest) :
    tokens (name ++ rest) = .word (String.ofList name) :: tokens rest := by
  obtain ⟨c, cs, rfl⟩ := List.exists_cons_of_ne_nil hne
  have hc := hname c List.mem_cons_self
  have hcs : ∀ d ∈ cs, isIdentifierChar d = true := fun d hd => hname d (List.mem_cons_of_mem c hd)
  have hne (d : Char) (hd : isIdentifierChar d = false) : c ≠ d := by
    rintro rfl
    simp [hc] at hd
  rw [List.cons_append, tokens, if_neg (hne _ (by decide)), if_neg (hne _ (by decide)),
    if_neg (hne _ (by decide)), if_neg (hne _ (by decide)), if_neg (hne _ (by decide)), if_pos hc,
    takeWhile_name hcs hrest, dropWhile_name hcs hrest]

theorem tokens_identifier {s : String} (hs : isIdentifier s = true) {rest : List Char}
    (hrest : StopsName rest) : tokens (s.toList ++ rest) = .word s :: tokens rest := by
  obtain ⟨hne, hname⟩ := isIdentifierChar_of_isIdentifier hs
  rw [tokens_word hne hname hrest, String.ofList_toList]

theorem tokens_identifier_blank {s : String} (hs : isIdentifier s = true) (rest : List Char) :
    tokens (s.toList ++ ' ' :: rest) = .word s :: tokens rest := by
  rw [tokens_identifier hs (stopsName_cons (by decide) rest), tokens_blank]

/-- A sign is followed by a blank in all conditions here. -/
theorem tokens_sign {sign : List Char} (hne : sign ≠ []) (hsign : ∀ c ∈ sign, isSignChar c = true)
    (rest : List Char) :
    tokens (sign ++ ' ' :: rest) = .sign (String.ofList sign) :: tokens rest := by
  obtain ⟨c, cs, rfl⟩ := List.exists_cons_of_ne_nil hne
  have hc := hsign c List.mem_cons_self
  have hcs : ∀ d ∈ cs, isSignChar d = true := fun d hd => hsign d (List.mem_cons_of_mem c hd)
  have hne (d : Char) (hd : isSignChar d = false) : c ≠ d := by
    rintro rfl
    simp [hc] at hd
  have hident : isIdentifierChar c = false := by
    simp only [isSignChar, Bool.or_eq_true, beq_iff_eq] at hc
    rcases hc with ((rfl | rfl) | rfl) | rfl <;> decide
  rw [List.cons_append, tokens, if_neg (hne _ (by decide)), if_neg (hne _ (by decide)),
    if_neg (hne _ (by decide)), if_neg (hne _ (by decide)), if_neg (hne _ (by decide)),
    if_neg (by simp [hident]), if_pos hc, List.takeWhile_append_of_pos hcs,
    List.dropWhile_append_of_pos hcs]
  have hblank : isSignChar ' ' = false := by decide
  simp [hblank, tokens_blank]

theorem tokens_quoted {text : List Char} (htext : ∀ c ∈ text, c ≠ '\'') (rest : List Char) :
    tokens ('\'' :: (text ++ '\'' :: rest)) = .quoted (String.ofList text) :: tokens rest := by
  have htext' : ∀ c ∈ text, decide (c ≠ '\'') = true := fun c hc => decide_eq_true (htext c hc)
  rw [tokens, if_neg (by decide), if_neg (by decide), if_neg (by decide), if_neg (by decide),
    if_pos rfl, List.takeWhile_append_of_pos htext', List.dropWhile_append_of_pos htext']
  simp

end SqlFilter
