import SqlFilter.Decimal.Basic
/-! Why rows cannot be written as documents. -/
namespace SqlFilter

/-- Why a row could not be written, and at which line and column of the document, if that is
known. Lines are counted from one. -/
structure WriteFault where
  reason : String
  place : Option (Nat × Nat)
deriving DecidableEq, Repr

namespace WriteFault

/-- A text without its ending, if that is the ending it has. -/
def dropEnding? (ending : String) (reversed : List Char) : Option (List Char) :=
  let back := ending.toList.reverse
  if back.isPrefixOf reversed then some (reversed.drop back.length) else none

/-- A number of sixty-four bits at the end of a text, and what stands before it. -/
def endingNumber? (reversed : List Char) : Option (Nat × List Char) :=
  let digits := (reversed.takeWhile Char.isDigit).reverse
  let n := Decimal.digitsValue digits
  if digits.isEmpty || UInt64.size ≤ n then none else some (n, reversed.drop digits.length)

/-- The place that a text ends with, and what stands before it. -/
def endingPlace? (text : String) : Option (String × Nat × Nat) := do
  let (column, rest) ← endingNumber? text.toList.reverse
  let rest ← dropEnding? " column " rest
  let (line, rest) ← endingNumber? rest
  let rest ← dropEnding? " at line " rest
  return (String.ofList rest.reverse, line, column)

/-- Takes the place off the end of a text. One on no line tells nothing. -/
def ofText (text : String) : WriteFault :=
  match endingPlace? text with
  | none => ⟨text, none⟩
  | some (reason, 0, _) => ⟨reason, none⟩
  | some (reason, line, column) => ⟨reason, some (line, column)⟩

def text (fault : WriteFault) : String :=
  match fault.place with
  | none => fault.reason
  | some (line, column) =>
    fault.reason ++ " at line " ++ toString line ++ " column " ++ toString column

end WriteFault
end SqlFilter
