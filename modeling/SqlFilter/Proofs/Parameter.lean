import Mathlib.Data.List.Nodup
import SqlFilter.Proofs.Identifier
import SqlFilter.Query
/-! Numbered parameters. The number at the end of a name can be read back whatever the field is, so
parameters with different numbers never share a name and each is found by its own. -/
namespace SqlFilter

/-- The name of the parameter with a number that is bound for a field. -/
def numberedName (field : String) (index : Nat) : String :=
  field ++ "_p" ++ toString index

/-- Values bound for fields, numbered from `index`. -/
def numbered (index : Nat) (bound : List (String × Value)) : List Parameter :=
  (bound.zipIdx index).map fun b => ⟨numberedName b.1.1 b.2, b.1.2⟩

theorem isDigit_of_mem_toString {n : Nat} {c : Char} (hc : c ∈ (toString n).toList) :
    c.isDigit = true := by
  rw [Nat.toString_eq_repr, Nat.toList_repr] at hc
  exact Nat.isDigit_of_mem_toDigits (by decide) (by decide) hc

theorem toString_injective {m n : Nat} (h : (toString m).toList = (toString n).toList) : m = n := by
  rw [Nat.toString_eq_repr, Nat.toString_eq_repr, Nat.toList_repr, Nat.toList_repr] at h
  have hread := congrArg (fun ds => Nat.ofDigitChars 10 ds 0) h
  simpa only [Nat.ofDigitChars_ten_toDigits] using hread

/-- What stands before the last sign that is no digit does not change the digits after it. -/
theorem digits_suffix_unique {p : Char} (hp : p.isDigit = false) {xs ys ds es : List Char}
    (hds : ∀ c ∈ ds, c.isDigit = true) (hes : ∀ c ∈ es, c.isDigit = true)
    (h : xs ++ p :: ds = ys ++ p :: es) : ds = es := by
  -- read from the end, the digits are what stands before the first sign that is no digit
  have htake (zs fs : List Char) (hfs : ∀ c ∈ fs, c.isDigit = true) :
      (zs ++ p :: fs).reverse.takeWhile Char.isDigit = fs.reverse := by
    simp only [List.reverse_append, List.reverse_cons, List.append_assoc]
    rw [List.takeWhile_append_of_pos (by simpa using hfs)]
    simp [hp]
  have hrev := congrArg (fun l : List Char => l.reverse.takeWhile Char.isDigit) h
  simp only [htake _ _ hds, htake _ _ hes] at hrev
  exact List.reverse_inj.1 hrev

theorem numberedName_index {f g : String} {i j : Nat} (h : numberedName f i = numberedName g j) :
    i = j := by
  have hlist := congrArg String.toList h
  simp only [numberedName, String.toList_append] at hlist
  have hsplit : (f.toList ++ ['_']) ++ 'p' :: (toString i).toList =
      (g.toList ++ ['_']) ++ 'p' :: (toString j).toList := by simpa using hlist
  exact toString_injective (digits_suffix_unique (by decide) (fun _ => isDigit_of_mem_toString)
    (fun _ => isDigit_of_mem_toString) hsplit)

theorem isIdentifier_numberedName {field : String} (hf : isIdentifier field = true)
    (index : Nat) : isIdentifier (numberedName field index) = true := by
  have hmark : ∀ c ∈ "_p".toList, isIdentifierChar c = true := List.all_eq_true.1 (by decide)
  refine isIdentifier_append (isIdentifier_append hf hmark) ?_
  intro c hc
  simp [isIdentifierChar, Char.isAlphanum, isDigit_of_mem_toString hc]

theorem length_numbered (index : Nat) (bound : List (String × Value)) :
    (numbered index bound).length = bound.length := by
  simp [numbered]

theorem numbered_append (index : Nat) (bound bound' : List (String × Value)) :
    numbered index (bound ++ bound') =
      numbered index bound ++ numbered (index + bound.length) bound' := by
  simp only [numbered, List.zipIdx_append, List.map_append]

theorem nodup_names_numbered (index : Nat) (bound : List (String × Value)) :
    ((numbered index bound).map (·.name)).Nodup := by
  induction bound generalizing index with
  | nil => simp [numbered]
  | cons b bound ih =>
    have hnum : numbered index (b :: bound) =
        ⟨numberedName b.1 index, b.2⟩ :: numbered (index + 1) bound := by
      simp [numbered]
    rw [hnum, List.map_cons, List.nodup_cons]
    refine ⟨?_, ih (index + 1)⟩
    -- a later parameter of this name would have this number, but later numbers are greater
    intro hmem
    simp only [numbered, List.map_map, List.mem_map, Function.comp] at hmem
    obtain ⟨⟨b', i⟩, hb', hname⟩ := hmem
    have hi := (List.mem_zipIdx hb').1
    have := numberedName_index hname
    omega

/-- A parameter has the number of its place. -/
theorem name_of_getElem?_numbered {bound : List (String × Value)} {k : Nat} {p : Parameter}
    (h : (numbered 0 bound)[k]? = some p) : ∃ b ∈ bound, p.name = numberedName b.1 k := by
  rw [numbered, List.getElem?_map, List.getElem?_zipIdx, Option.map_map] at h
  obtain ⟨b, hb, rfl⟩ := Option.map_eq_some_iff.1 h
  have hnumber : 0 + k = k := Nat.zero_add k
  refine ⟨b, List.mem_of_getElem? hb, ?_⟩
  simp only [Function.comp_apply, hnumber]

theorem parameterValue?_of_mem {ps : List Parameter} (hps : (ps.map (·.name)).Nodup)
    {p : Parameter} (hp : p ∈ ps) : parameterValue? ps p.name = some p.value := by
  induction ps with
  | nil => simp at hp
  | cons q ps ih =>
    rw [List.map_cons, List.nodup_cons] at hps
    rcases List.mem_cons.1 hp with rfl | hp
    · simp [parameterValue?]
    · have hne : q.name ≠ p.name := fun h => hps.1 (h ▸ List.mem_map_of_mem hp)
      simpa [parameterValue?, hne] using ih hps.2 hp

end SqlFilter
