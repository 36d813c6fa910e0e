import SqlFilter.Text.Basic
import SqlFilter.Text.CaseTable
/-! Lower case for all of Unicode, without regard to language. Two letters need more than a look at
one character: a capital I with dot becomes two characters, and a capital sigma that ends a word has
a form of its own. -/
namespace SqlFilter.Text

def isCased (c : Char) : Bool := inRanges casedRanges c

def isCaseIgnorable (c : Char) : Bool := inRanges caseIgnorableRanges c

def CaseRun.covers (run : CaseRun) (n : Nat) : Bool :=
  run.first ≤ n ∧ n ≤ run.last ∧ (n - run.first) % run.step = 0

/-- The lower case of a character that stands alone. -/
def lowerChar (c : Char) : List Char :=
  if c = 'İ' then ['i', '\u0307']
  else match lowerRuns.find? (·.covers c.toNat) with
    | none => [c]
    | some run => [Char.ofNat (c.toNat + run.shift).toNat]

/-- Whether the first character that case rules do not pass over has case. -/
def meetsCased (cs : List Char) : Bool :=
  ((cs.dropWhile isCaseIgnorable).head?.map isCased).getD false

/-- Lower case of what follows the given characters, which come last one first. A capital sigma
takes its final form after a letter and before none. -/
def lowerAfter (before : List Char) : List Char → List Char
  | [] => []
  | c :: rest =>
    (if c = 'Σ' then [if meetsCased before && !meetsCased rest then 'ς' else 'σ']
      else lowerChar c) ++ lowerAfter (c :: before) rest

def lower (s : String) : String :=
  String.ofList (lowerAfter [] s.toList)

end SqlFilter.Text
