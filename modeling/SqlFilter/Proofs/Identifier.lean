import Mathlib.Data.List.Basic
import SqlFilter.Identifier
/-! Names in running text, and dotted names. A name ends where the first character stands that is in
no identifier; a dotted name is its segments with dots between them. -/
namespace SqlFilter

theorem isIdentifierChar_of_isIdentifier {s : String} (hs : isIdentifier s = true) :
    s.toList ≠ [] ∧ ∀ c ∈ s.toList, isIdentifierChar c = true := by
  unfold isIdentifier at hs
  cases hcs : s.toList with
  | nil => simp [hcs] at hs
  | cons c cs =>
    simp only [hcs, Bool.and_eq_true, List.all_eq_true] at hs
    refine ⟨by simp, ?_⟩
    intro d hd
    rcases List.mem_cons.1 hd with rfl | hd
    · exact isIdentifierChar_of_isIdentifierStart hs.1
    · exact hs.2 d hd

theorem not_mem_of_isIdentifier {s : String} (hs : isIdentifier s = true) {c : Char}
    (hc : isIdentifierChar c = false) : c ∉ s.toList := by
  intro hmem
  have hchar := (isIdentifierChar_of_isIdentifier hs).2 c hmem
  simp [hc] at hchar

theorem isIdentifier_append {s t : String} (hs : isIdentifier s = true)
    (ht : ∀ c ∈ t.toList, isIdentifierChar c = true) : isIdentifier (s ++ t) = true := by
  unfold isIdentifier at *
  rw [String.toList_append]
  cases hcs : s.toList with
  | nil => simp [hcs] at hs
  | cons c cs =>
    simp only [hcs, Bool.and_eq_true] at hs
    simp [hs.1, hs.2, List.all_eq_true.2 ht]

/-- What may follow a name: it does not begin with a character that would belong to the name. -/
def StopsName (rest : List Char) : Prop :=
  ∀ c ∈ rest.head?, isIdentifierChar c = false

@[simp] theorem stopsName_nil : StopsName [] := by
  simp [StopsName]

theorem stopsName_cons {c : Char} (hc : isIdentifierChar c = false) (cs : List Char) :
    StopsName (c :: cs) := by
  simpa [StopsName] using hc

theorem stopsName_append {cs ds : List Char} (hcs : StopsName cs) (hds : StopsName ds) :
    StopsName (cs ++ ds) := by
  cases cs with
  | nil => exact hds
  | cons c cs => exact hcs

theorem takeWhile_name {name rest : List Char} (hname : ∀ c ∈ name, isIdentifierChar c = true)
    (hrest : StopsName rest) : (name ++ rest).takeWhile isIdentifierChar = name := by
  rw [List.takeWhile_append_of_pos hname]
  cases rest with
  | nil => simp
  | cons c cs =>
    have hc : isIdentifierChar c = false := hrest c rfl
    simp [hc]

theorem dropWhile_name {name rest : List Char} (hname : ∀ c ∈ name, isIdentifierChar c = true)
    (hrest : StopsName rest) : (name ++ rest).dropWhile isIdentifierChar = rest := by
  rw [List.dropWhile_append_of_pos hname]
  cases rest with
  | nil => rfl
  | cons c cs =>
    have hc : isIdentifierChar c = false := hrest c rfl
    simp [hc]

theorem pieces_append_cons (sep : Char) (cs ds : List Char) :
    pieces sep (cs ++ sep :: ds) = pieces sep cs ++ pieces sep ds := by
  induction cs with
  | nil => simp [pieces]
  | cons c cs ih =>
    obtain ⟨p, ps, hp⟩ := List.exists_cons_of_ne_nil (pieces_ne_nil sep cs)
    rw [List.cons_append, pieces, pieces, ih, hp]
    split <;> rfl

theorem pieces_of_not_mem {sep : Char} {cs : List Char} (h : sep ∉ cs) : pieces sep cs = [cs] := by
  induction cs with
  | nil => rfl
  | cons c cs ih =>
    obtain ⟨hc, hcs⟩ := not_or.1 (mt List.mem_cons.2 h)
    rw [pieces, if_neg (Ne.symm hc), ih hcs]

theorem dottedSegments_ne_nil (path : String) : dottedSegments path ≠ [] := by
  simpa [dottedSegments] using pieces_ne_nil '.' path.toList

theorem intercalate_dottedSegments (s : String) : ".".intercalate (dottedSegments s) = s := by
  apply String.toList_inj.1
  rw [String.toList_intercalate, dottedSegments, List.map_map]
  have hpieces := intercalate_pieces '.' s.toList
  simpa [Function.comp_def] using hpieces

theorem intercalate_concat {segments : List String} (hne : segments ≠ []) (s : String) :
    ".".intercalate (segments ++ [s]) = ".".intercalate segments ++ "." ++ s := by
  rw [String.intercalate_append_of_ne_nil hne (List.cons_ne_nil s []),
    String.intercalate_singleton]

theorem dottedSegments_append (s t : String) :
    dottedSegments (s ++ "." ++ t) = dottedSegments s ++ dottedSegments t := by
  have hlist : (s ++ "." ++ t).toList = s.toList ++ '.' :: t.toList := by simp
  rw [dottedSegments, hlist, pieces_append_cons, List.map_append]
  rfl

/-- Texts with dots between them have the segments of all the texts. -/
theorem dottedSegments_intercalate {texts : List String} (hne : texts ≠ []) :
    dottedSegments (".".intercalate texts) = texts.flatMap dottedSegments := by
  induction texts with
  | nil => exact absurd rfl hne
  | cons s texts ih =>
    cases texts with
    | nil => rw [String.intercalate_singleton, List.flatMap_singleton]
    | cons t texts =>
      calc dottedSegments (".".intercalate (s :: t :: texts))
          = dottedSegments s ++ dottedSegments (".".intercalate (t :: texts)) := by
            rw [String.intercalate_cons_cons, dottedSegments_append]
        _ = dottedSegments s ++ (t :: texts).flatMap dottedSegments := by
            rw [ih (List.cons_ne_nil t texts)]
        _ = (s :: t :: texts).flatMap dottedSegments := List.flatMap_cons.symm

theorem dottedSegments_of_isIdentifier {s : String} (hs : isIdentifier s = true) :
    dottedSegments s = [s] := by
  have hdot : '.' ∉ s.toList := not_mem_of_isIdentifier hs (by decide)
  rw [dottedSegments, pieces_of_not_mem hdot, List.map_singleton, String.ofList_toList]

/-- A text of one segment is this segment. -/
theorem dottedSegments_of_length_le_one {s : String} (h : (dottedSegments s).length ≤ 1) :
    dottedSegments s = [s] := by
  obtain ⟨u, us, hus⟩ := List.exists_cons_of_ne_nil (dottedSegments_ne_nil s)
  obtain rfl : us = [] := by
    rw [hus, List.length_cons] at h
    exact List.length_eq_zero_iff.1 (by omega)
  have hjoin := intercalate_dottedSegments s
  rw [hus, String.intercalate_singleton] at hjoin
  rw [hus, hjoin]

theorem length_le_length_flatMap_dottedSegments (texts : List String) :
    texts.length ≤ (texts.flatMap dottedSegments).length := by
  induction texts with
  | nil => simp
  | cons s texts ih =>
    have hfirst : 0 < (dottedSegments s).length :=
      List.length_pos_of_ne_nil (dottedSegments_ne_nil s)
    rw [List.flatMap_cons, List.length_append, List.length_cons]
    omega

/-- Texts that have no more segments than there are texts are segments themselves. -/
theorem flatMap_dottedSegments_of_length_le {texts : List String}
    (h : (texts.flatMap dottedSegments).length ≤ texts.length) :
    texts.flatMap dottedSegments = texts := by
  induction texts with
  | nil => rfl
  | cons s texts ih =>
    have hfirst : 0 < (dottedSegments s).length :=
      List.length_pos_of_ne_nil (dottedSegments_ne_nil s)
    have hmore := length_le_length_flatMap_dottedSegments texts
    rw [List.flatMap_cons, List.length_append, List.length_cons] at h
    rw [List.flatMap_cons, dottedSegments_of_length_le_one (by omega), ih (by omega),
      List.singleton_append]

theorem flatMap_dottedSegments_of_isIdentifier {texts : List String}
    (h : ∀ s ∈ texts, isIdentifier s = true) : texts.flatMap dottedSegments = texts := by
  have hsingle : texts.flatMap dottedSegments = texts.flatMap fun s => [s] :=
    List.flatMap_congr fun s hs => dottedSegments_of_isIdentifier (h s hs)
  rw [hsingle, List.flatMap_singleton']

end SqlFilter
